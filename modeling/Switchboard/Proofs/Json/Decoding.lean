import Switchboard.Json.Decoder
import Switchboard.Proofs.Json.Reading
import Switchboard.Proofs.Json.Writing

/-!
# Typed reading against the grammar

A decoder reads a document that was read before, or straight from a text. `Decoder.Faithful` says
that the second way is no other than the first where the first one succeeds; scalars and whole
documents are read so, and `map`, `option` and `list` keep it. A choice is read so where it is given
by its name alone, so the notion is one of a decoder and a document, `FaithfulAt`. A record is
judged by its members as they are written, `membersOfValue`, so that one that is written and read
again needs no text to be reasoned about: `record_parse_render`. If it has all of its fields in
their order it is no other than the list of their values: `membersOfValue_zip`.
-/

namespace Switchboard.Json

/-! ### Kinds of spellings -/

theorem Spells.scalar_or {depth : Nat} {v : Value} {cs : List Char} (h : Spells depth v cs) :
    SpellsScalar v cs ∨ v.found = .sequence ∨ v.found = .map := by
  cases depth with
  | zero => exact .inl h
  | succ depth =>
    obtain h | ⟨-⟩ | ⟨-⟩ := h
    · exact .inl h
    · exact .inr (.inl rfl)
    · exact .inr (.inr rfl)

theorem Spells.of_null {depth : Nat} {cs : List Char} (h : Spells depth .null cs) :
    cs = ['n', 'u', 'l', 'l'] := by
  obtain ⟨⟨⟩⟩ | h | h := h.scalar_or
  · rfl
  · cases h
  · cases h

theorem Spells.of_string {depth : Nat} {s : String} {cs : List Char}
    (h : Spells depth (.string s) cs) : SpellsString s cs := by
  obtain ⟨⟨⟩⟩ | h | h := h.scalar_or
  · assumption
  · cases h
  · cases h

theorem Spells.ne_of_head {depth : Nat} {v : Value} {c : Char} {tail : List Char}
    (h : Spells depth v (c :: tail)) (other : v ≠ .null) : c ≠ 'n' := by
  have scalar (h : SpellsScalar v (c :: tail)) : c ≠ 'n' := by
    generalize same : c :: tail = cs at h
    cases h with
    | null => exact absurd rfl other
    | bool_true | bool_false =>
      rw [(List.cons.inj same).1]
      decide
    | string spelled =>
      obtain ⟨inner, -, rfl⟩ := spelled
      rw [(List.cons.inj same).1]
      decide
    | number spelled =>
      obtain ⟨first, rest, rfl, sign⟩ := spelled.starts
      rw [(List.cons.inj same).1]
      exact ne_of_startsNumber sign (by decide)
  cases depth with
  | zero => exact scalar h
  | succ depth =>
    obtain h | h := h
    · exact scalar h
    · generalize same : c :: tail = cs at h
      cases h <;>
      · rw [(List.cons.inj same).1]
        decide

namespace Decoder

variable {α β σ : Type}

/-- What a decoder reads from a document it takes off the front of each text that starts with that
document, if this is not longer than the bound and is not a number that goes on. -/
structure FaithfulAt (d : Decoder α) (v : Value) : Prop where
  reads : ∀ {bound depth : Nat} {a : α} {before cs rest : List Char},
    d.ofValue v = .ok a → Blanks before → Spells depth v cs → cs.length ≤ bound →
      (∀ c ∈ rest.head?, continuesNumber c = false) →
        d.ofText bound depth (before ++ (cs ++ rest)) = .ok (a, rest)

def Faithful (d : Decoder α) : Prop := ∀ v, d.FaithfulAt v

theorem then_eq_ok {read : Except Fault α} {next : α → Except Fault β} {b : β} :
    (read >>= next) = .ok b ↔ ∃ a, read = .ok a ∧ next a = .ok b := by
  cases read with
  | error fault => simp [bind, Except.bind]
  | ok a => simp [bind, Except.bind]

theorem map_eq_ok {f : α → β} {read : Except Fault α} {b : β} (h : f <$> read = .ok b) :
    ∃ a, read = .ok a ∧ f a = b := by
  cases read with
  | error fault => cases h
  | ok a => exact ⟨a, rfl, Except.ok.inj h⟩

/-! ### Whole documents and scalars -/

theorem faithful_value : value.Faithful := by
  refine fun v => ⟨fun h blanks spelled size ends => ?_⟩
  obtain rfl := Except.ok.inj h
  exact (reads_readValue _ _).complete blanks spelled size ends

theorem readFound_append {v : Value} {before cs rest : List Char} (blanks : Blanks before)
    (h : SpellsScalar v cs) (ends : ∀ c ∈ rest.head?, continuesNumber c = false) :
    readFound (before ++ (cs ++ rest)) = .ok (v.found, rest) := by
  have found := scalar_append h ends
  obtain ⟨c, tail, rfl, noBlank, no⟩ := h.starts
  simp only [List.mem_cons, List.not_mem_nil, or_false, not_or] at no
  rw [List.cons_append] at found ⊢
  simp only [readFound, skipSpace_append_cons blanks noBlank (tail ++ rest)]
  split
  · contradiction
  · next same => exact absurd (List.cons.inj same).1 no.2.1
  · next same => exact absurd (List.cons.inj same).1 no.2.2
  · rw [found]

theorem faithful_ofFound {accept : Found → Except Fault α}
    (noList : ∀ a, accept .sequence ≠ .ok a) (noRecord : ∀ a, accept .map ≠ .ok a) :
    (ofFound accept).Faithful := by
  refine fun v => ⟨fun {bound depth a before cs rest} h blanks spelled size ends => ?_⟩
  have accepted : accept v.found = .ok a := h
  obtain scalar | list | record := spelled.scalar_or
  · simp only [ofFound, readFound_append blanks scalar ends, ok_bind, accepted, placed]
  · exact absurd (list ▸ accepted) (noList a)
  · exact absurd (record ▸ accepted) (noRecord a)

theorem faithful_integer (low high : Int) (expected : String) :
    (integer low high expected).Faithful :=
  faithful_ofFound (fun _ h => by cases h) (fun _ h => by cases h)

theorem faithful_text (expected : String) : (text expected).Faithful :=
  faithful_ofFound (fun _ h => by cases h) (fun _ h => by cases h)

theorem integer_eq_ok_iff {low high i : Int} {expected : String} {v : Value} :
    (integer low high expected).ofValue v = .ok i ↔ v = .number (.int i) ∧ low ≤ i ∧ i ≤ high := by
  cases v with
  | number n =>
    cases n with
    | int j =>
      simp only [integer, ofFound, Value.found]
      split
      · next fits =>
        simp only [Except.ok.injEq, Value.number.injEq, Number.int.injEq]
        exact ⟨fun same => ⟨same, same ▸ fits⟩, fun h => h.1⟩
      · next out =>
        simp only [reduceCtorEq, Value.number.injEq, Number.int.injEq, false_iff]
        rintro ⟨rfl, fits⟩
        exact out fits
    | float x => simp [integer, ofFound, Value.found]
  | _ => simp [integer, ofFound, Value.found]

theorem text_eq_ok_iff {expected s : String} {v : Value} :
    (text expected).ofValue v = .ok s ↔ v = .string s := by
  cases v <;> simp [text, ofFound, Value.found]

theorem FaithfulAt.map {d : Decoder α} {v : Value} (h : d.FaithfulAt v) (f : α → β) :
    (d.map f).FaithfulAt v := by
  refine ⟨fun decoded blanks spelled size ends => ?_⟩
  obtain ⟨a, found, rfl⟩ := map_eq_ok decoded
  simp only [Decoder.map, h.reads found blanks spelled size ends, ok_bind]

theorem Faithful.map {d : Decoder α} (h : d.Faithful) (f : α → β) : (d.map f).Faithful :=
  fun v => (h v).map f

theorem Faithful.option {d : Decoder α} (h : d.Faithful) : d.option.Faithful := by
  refine fun v => ⟨fun {bound depth a before cs rest} decoded blanks spelled size ends => ?_⟩
  obtain ⟨c, tail, rfl, noBlank, -⟩ := spelled.starts
  have skipped := skipSpace_append_cons blanks noBlank (tail ++ rest)
  simp only [Decoder.option, List.cons_append, skipped]
  by_cases null : v = .null
  · subst null
    obtain rfl := Except.ok.inj decoded
    obtain ⟨rfl, rfl⟩ := List.cons.inj spelled.of_null
    rfl
  · obtain ⟨b, found, rfl⟩ : ∃ b, d.ofValue v = .ok b ∧ some b = a := by
      cases v with
      | null => exact absurd rfl null
      | _ => exact map_eq_ok decoded
    have read := (h v).reads found Blanks.nil spelled size ends
    rw [List.nil_append, List.cons_append] at read
    split
    · next same => exact absurd (List.cons.inj same).1 (spelled.ne_of_head null)
    · rw [read, ok_bind]

/-! ### Choices -/

theorem faithfulAt_choice (known : List (String × α)) {v : Value}
    (noRecord : ∀ ms, v ≠ .object ms) : (choice known).FaithfulAt v := by
  refine ⟨fun decoded blanks spelled size ends => ?_⟩
  cases v with
  | string s =>
    obtain ⟨inner, inText, rfl⟩ := spelled.of_string
    have picked : choice.pick known s = .ok _ := decoded
    simp only [choice, List.cons_append, List.append_assoc, List.nil_append,
      skipSpace_append_cons blanks (show isSpace '"' = false by decide), readString_append inText,
      ok_bind, picked, placed]
  | object ms => exact absurd rfl (noRecord ms)
  | _ => cases decoded

/-! ### Lists -/

section Lists

variable {d : Decoder α} {depth : Nat}

/-- The spellings of the documents from which something is read. -/
def SpellsRead (d : Decoder α) (depth : Nat) (a : α) (cs : List Char) : Prop :=
  ∃ v, d.ofValue v = .ok a ∧ Spells depth v cs

theorem Faithful.takes (h : d.Faithful) (bound : Nat) :
    Takes (d.ofText bound depth) (d.SpellsRead depth) bound where
  complete blanks item size ends := by
    obtain ⟨v, decoded, spelled⟩ := item
    exact (h v).reads decoded blanks spelled size ends
  starts item := by
    obtain ⟨v, -, spelled⟩ := item
    exact spelled.starts

theorem mapM_cons_eq_ok {v : Value} {vs : List Value} {as : List α}
    (h : (v :: vs).mapM d.ofValue = .ok as) :
    ∃ a others, d.ofValue v = .ok a ∧ vs.mapM d.ofValue = .ok others ∧ as = a :: others := by
  rw [List.mapM_cons] at h
  obtain ⟨a, first, h⟩ := then_eq_ok.mp h
  obtain ⟨others, later, h⟩ := then_eq_ok.mp h
  exact ⟨a, others, first, later, (Except.ok.inj h).symm⟩

theorem further_read {vs : List Value} {cs : List Char} (h : Further (Spells depth) vs cs)
    {as : List α} (decoded : vs.mapM d.ofValue = .ok as) :
    Further (d.SpellsRead depth) as cs := by
  induction h generalizing as with
  | none blanks =>
    obtain rfl := Except.ok.inj decoded
    exact .none blanks
  | next blanks blanks' item more ih =>
    obtain ⟨a, others, first, later, rfl⟩ := mapM_cons_eq_ok decoded
    exact .next blanks blanks' ⟨_, first, item⟩ (ih later)

theorem separated_read {vs : List Value} {cs : List Char} (h : Separated (Spells depth) vs cs)
    {as : List α} (decoded : vs.mapM d.ofValue = .ok as) :
    Separated (d.SpellsRead depth) as cs := by
  cases h with
  | none blanks =>
    obtain rfl := Except.ok.inj decoded
    exact .none blanks
  | some blanks item more =>
    obtain ⟨a, others, first, later, rfl⟩ := mapM_cons_eq_ok decoded
    exact .some blanks ⟨_, first, item⟩ (further_read more later)

theorem Faithful.list (h : d.Faithful) : d.list.Faithful := by
  refine fun v => ⟨fun {bound depth as before cs rest} decoded blanks spelled size ends => ?_⟩
  cases v with
  | array vs =>
    cases depth with
    | zero => cases spelled
    | succ depth =>
      obtain scalar | @⟨_, cs, items⟩ := spelled
      · cases scalar
      · simp only [List.length_cons, List.length_append] at size
        simp only [Decoder.list, List.cons_append, List.append_assoc, List.nil_append,
          skipSpace_append_cons blanks (show isSpace '[' = false by decide)]
        exact readItems_append (h.takes bound) (separated_read items decoded) (by omega) rest
  | _ => cases decoded

end Lists

/-! ### Records -/

section Records

variable {fields : List (Field σ)}

theorem membersOfValue_of_known {seen : List String} {k : String} {v : Value} {ms : Members}
    {r a : σ} (h : membersOfValue fields seen ((k, v) :: ms) r = .ok a)
    (known : k ∈ fields.map Field.name) :
    ∃ f ∈ fields, fields.find? (·.name == k) = some f ∧ seen.contains k = false ∧
      ∃ g, f.set.ofValue v = .ok g ∧ membersOfValue fields (k :: seen) ms (g r) = .ok a := by
  unfold membersOfValue at h
  split at h
  · next unknown =>
    obtain ⟨f, hf, rfl⟩ := List.mem_map.mp known
    exact absurd (List.find?_eq_none.mp unknown f hf) (by simp)
  · next f found =>
    split at h
    · cases h
    · next new =>
      exact ⟨f, List.mem_of_find?_eq_some found, found, by simpa using new, then_eq_ok.mp h⟩

theorem membersOfValue_of_unknown {k : String} (unknown : k ∉ fields.map Field.name)
    {seen : List String} {v : Value} {ms : Members} {r : σ} :
    membersOfValue fields seen ((k, v) :: ms) r = membersOfValue fields seen ms r := by
  have none : fields.find? (·.name == k) = none := by
    refine List.find?_eq_none.mpr fun f hf same => unknown ?_
    exact List.mem_map.mpr ⟨f, hf, by simpa using same⟩
  simp only [membersOfValue, none]

theorem membersOfValue_cons {name : String} {d : Decoder α} {set : α → σ → σ} {required : Bool}
    (lookup : fields.find? (·.name == name) = some { name, set := d.map set, required })
    {seen : List String} (new : name ∉ seen) (v : Value) (ms : Members) (r : σ) :
    membersOfValue fields seen ((name, v) :: ms) r =
      d.ofValue v >>= fun a => membersOfValue fields (name :: seen) ms (set a r) := by
  simp only [membersOfValue, lookup]
  rw [if_neg (by simpa using new)]
  cases read : d.ofValue v <;> simp only [Decoder.map, read] <;> rfl

theorem mem_of_required {seen : List String} {ms : Members} {r a : σ}
    (h : membersOfValue fields seen ms r = .ok a) {f : Field σ} (hf : f ∈ fields)
    (required : f.required) : f.name ∈ seen ∨ f.name ∈ ms.map Prod.fst := by
  induction ms generalizing seen r with
  | nil =>
    unfold membersOfValue at h
    split at h
    · cases h
    · next complete =>
      have noneMissing := List.find?_eq_none.mp (Option.map_eq_none_iff.mp complete) f hf
      simpa [required] using noneMissing
  | cons m ms ih =>
    obtain ⟨k, v⟩ := m
    by_cases known : k ∈ fields.map Field.name
    · obtain ⟨-, -, -, -, g, -, onward⟩ := membersOfValue_of_known h known
      rcases ih onward with before | later
      · rcases List.mem_cons.mp before with same | before
        · exact .inr (by simp [same])
        · exact .inl before
      · exact .inr (List.mem_cons_of_mem k later)
    · rw [membersOfValue_of_unknown known] at h
      exact (ih h).imp_right (List.mem_cons_of_mem k)

theorem membersOfValue_filter (seen : List String) (ms : Members) (r : σ) :
    membersOfValue fields seen (ms.filter ((fields.map Field.name).contains ·.1)) r =
      membersOfValue fields seen ms r := by
  induction ms generalizing seen r with
  | nil => rfl
  | cons m ms ih =>
    obtain ⟨k, v⟩ := m
    by_cases known : k ∈ fields.map Field.name
    · rw [List.filter_cons_of_pos (by simpa using known)]
      simp only [membersOfValue, ih]
    · rw [List.filter_cons_of_neg (by simpa using known), ih, membersOfValue_of_unknown known]

theorem membersOfValue_of_ascending {ms : Members} (h : ms.Ascending) {names : List String}
    (sorted : names.Pairwise (· < ·)) (known : (fields.map Field.name).Perm names) (r : σ) :
    membersOfValue fields [] ms r =
      membersOfValue fields [] (names.filterMap fun name => (ms.get? name).map (name, ·)) r := by
  have same : (fun m : String × Value => (fields.map Field.name).contains m.1) =
      fun m => names.contains m.1 := by
    funext m
    simp only [List.contains_eq_mem, known.mem_iff]
  rw [← membersOfValue_filter, same, h.filter_eq sorted]

theorem itemsOfValue_cons (what : String) (total length done : Nat) {name : String}
    {d : Decoder α} {set : α → σ → σ} {required : Bool} (v : Value) (vs : List Value) (r : σ) :
    itemsOfValue what total length done ({ name, set := d.map set, required } :: fields) (v :: vs)
        r =
      d.ofValue v >>= fun a => itemsOfValue what total length (done + 1) fields vs (set a r) := by
  cases read : d.ofValue v <;> simp only [itemsOfValue, Decoder.map, read] <;> rfl

theorem find?_field {before later : List (Field σ)} {f : Field σ}
    (distinct : ((before ++ f :: later).map Field.name).Nodup) :
    (before ++ f :: later).find? (·.name == f.name) = some f := by
  rw [List.map_append, List.map_cons, List.nodup_append] at distinct
  have other : ∀ g ∈ before, g.name ≠ f.name := fun g hg =>
    distinct.2.2 g.name (List.mem_map_of_mem hg) f.name List.mem_cons_self
  have notBefore : before.find? (·.name == f.name) = none :=
    List.find?_eq_none.mpr fun g hg same => other g hg (by simpa using same)
  rw [List.find?_append, notBefore, Option.none_or, List.find?_cons_of_pos (by simp)]

/-- The induction is on the fields that are left; the names of those before were seen. -/
theorem membersOfValue_zip_from (what : String) (total length : Nat) (before : List (Field σ))
    {later : List (Field σ)} (split : fields = before ++ later)
    (distinct : (fields.map Field.name).Nodup) {vs : List Value}
    (full : vs.length = later.length) (r : σ) :
    membersOfValue fields (before.map Field.name).reverse ((later.map Field.name).zip vs) r =
      itemsOfValue what total length before.length later vs r := by
  induction later generalizing before vs r with
  | nil =>
    obtain rfl := List.length_eq_zero_iff.mp full
    have complete : Field.missing? fields (before.map Field.name).reverse = none := by
      refine Option.map_eq_none_iff.mpr (List.find?_eq_none.mpr fun f hf => ?_)
      rw [split, List.append_nil] at hf
      have seen : (before.map Field.name).reverse.contains f.name :=
        List.contains_iff_mem.mpr (List.mem_reverse.mpr (List.mem_map_of_mem hf))
      simp only [seen, Bool.not_true, Bool.and_false, Bool.false_eq_true, not_false_eq_true]
    simp [membersOfValue, itemsOfValue, complete, tooFew, Field.firstRequired?]
  | cons f later ih =>
    obtain ⟨v, vs, rfl⟩ := List.exists_cons_of_length_eq_add_one full
    have found : fields.find? (·.name == f.name) = some f := split ▸ find?_field (split ▸ distinct)
    have new : f.name ∉ (before.map Field.name).reverse := by
      rw [split, List.map_append, List.map_cons, List.nodup_append] at distinct
      intro seen
      exact distinct.2.2 _ (List.mem_reverse.mp seen) _ List.mem_cons_self rfl
    have onward (r : σ) := ih (before ++ [f]) (by simp [split]) (Nat.succ.inj full) r
    simp only [List.map_append, List.map_cons, List.map_nil, List.reverse_append,
      List.reverse_cons, List.reverse_nil, List.nil_append, List.cons_append, List.length_append,
      List.length_cons, List.length_nil, Nat.zero_add] at onward
    simp only [List.map_cons, List.zip_cons_cons, membersOfValue, found, itemsOfValue, onward]
    rw [if_neg (by simpa using new)]

theorem membersOfValue_zip (what : String) (total length : Nat)
    (distinct : (fields.map Field.name).Nodup) {vs : List Value} (full : vs.length = fields.length)
    (r : σ) :
    membersOfValue fields [] ((fields.map Field.name).zip vs) r =
      itemsOfValue what total length 0 fields vs r :=
  membersOfValue_zip_from what total length [] rfl distinct full r

variable {loops depth : Nat}

theorem readFieldMembers_member {m : String × Value} {others : Members} {cs : List Char}
    (faithful : ∀ f ∈ fields, f.name = m.1 → f.set.FaithfulAt m.2)
    (member : SpellsMember (Spells depth) m cs) (known : m.1 ∈ fields.map Field.name)
    {seen : List String} {r a : σ} (found : membersOfValue fields seen (m :: others) r = .ok a)
    (size : cs.length ≤ loops) {rest : List Char}
    (ends : ∀ c ∈ rest.head?, continuesNumber c = false) :
    ∃ tail, cs = '"' :: tail ∧ ∃ g : σ → σ,
      membersOfValue fields (m.1 :: seen) others (g r) = .ok a ∧
      ∀ {rounds : Nat} {first : Bool} {front : List Char},
        readNextName first front = .ok (true, tail ++ rest) →
        readFieldMembers fields loops depth (rounds + 1) seen first r front =
          readFieldMembers fields loops depth rounds (m.1 :: seen) false (g r) rest := by
  obtain @⟨name, v, _, before, after, cs, ⟨inner, text, rfl⟩, blanks, blanks', item⟩ := member
  obtain ⟨f, hf, lookup, new, g, read, onward⟩ := membersOfValue_of_known found known
  refine ⟨inner ++ '"' :: (before ++ ':' :: (after ++ cs)), by simp, g, onward,
    fun {rounds first front} next => ?_⟩
  simp only [List.length_append, List.length_cons] at size
  have named : f.name = name := by simpa using List.find?_some lookup
  have value := (faithful f hf named).reads read blanks' item (show cs.length ≤ loops by omega) ends
  simp only [List.append_assoc, List.cons_append] at next
  rw [readFieldMembers, next, ok_bind]
  simp only [if_true, readString_append text, ok_bind, lookup, new, Bool.false_eq_true, if_false,
    readColon_append blanks, value]

theorem readFieldMembers_append {written : Members} {tail : List Char}
    (faithful : ∀ m ∈ written, ∀ f ∈ fields, f.name = m.1 → f.set.FaithfulAt m.2)
    (spelled : Further (SpellsMember (Spells depth)) written tail)
    (known : ∀ m ∈ written, m.1 ∈ fields.map Field.name) {seen : List String} {r a : σ}
    (found : membersOfValue fields seen written r = .ok a) (size : tail.length ≤ loops)
    {rounds : Nat} (enough : written.length < rounds) (rest : List Char) :
    readFieldMembers fields loops depth rounds seen false r (tail ++ '\x7d' :: rest) =
      .ok (a, rest) := by
  induction spelled generalizing seen r rounds with
  | none blanks =>
    obtain ⟨rounds, rfl⟩ := Nat.exists_eq_add_of_lt enough
    unfold membersOfValue at found
    simp only [List.length_nil, Nat.zero_add, readFieldMembers, readNextName_close false blanks,
      ok_bind, Bool.false_eq_true, if_false]
    split at found
    · cases found
    · rw [Except.ok.inj found]
  | @next m others after before cs tail blanks blanks' member more ih =>
    obtain ⟨rounds, rfl⟩ := Nat.exists_eq_add_of_lt enough
    obtain ⟨first, later⟩ := List.forall_mem_cons.mp known
    obtain ⟨faithful, faithful'⟩ := List.forall_mem_cons.mp faithful
    simp only [List.length_append, List.length_cons] at size
    obtain ⟨inner, rfl, g, onward, step⟩ := readFieldMembers_member faithful member first found
      (show cs.length ≤ loops by omega)
      (more.ends_number (by decide : continuesNumber '\x7d' = false) rest)
    have next := readNextName_next blanks blanks' (inner ++ (tail ++ '\x7d' :: rest))
    simp only [List.append_assoc, List.cons_append]
    rw [step next]
    exact ih faithful' later onward (by omega)
      (show others.length < (m :: others).length + rounds by simp only [List.length_cons]; omega)

theorem readFieldMembers_first {written : Members} {cs : List Char}
    (faithful : ∀ m ∈ written, ∀ f ∈ fields, f.name = m.1 → f.set.FaithfulAt m.2)
    (spelled : Separated (SpellsMember (Spells depth)) written cs)
    (known : ∀ m ∈ written, m.1 ∈ fields.map Field.name) {empty a : σ}
    (found : membersOfValue fields [] written empty = .ok a) (size : cs.length < loops)
    (rest : List Char) :
    readFieldMembers fields loops depth loops [] true empty (cs ++ '\x7d' :: rest) =
      .ok (a, rest) := by
  obtain ⟨rounds, rfl⟩ : ∃ rounds, loops = rounds + 1 := ⟨loops - 1, by omega⟩
  cases spelled with
  | none blanks =>
    unfold membersOfValue at found
    simp only [readFieldMembers, readNextName_close true blanks, ok_bind, Bool.false_eq_true,
      if_false]
    split at found
    · cases found
    · rw [Except.ok.inj found]
  | @some m others before cs tail blanks member more =>
    obtain ⟨first, later⟩ := List.forall_mem_cons.mp known
    obtain ⟨faithful, faithful'⟩ := List.forall_mem_cons.mp faithful
    simp only [List.length_append] at size
    obtain ⟨inner, rfl, g, onward, step⟩ := readFieldMembers_member faithful member first found
      (show cs.length ≤ rounds + 1 by omega)
      (more.ends_number (by decide : continuesNumber '\x7d' = false) rest)
    have next := readNextName_first blanks (inner ++ (tail ++ '\x7d' :: rest))
    have enough : others.length < rounds := by
      have := more.length_le
      simp only [List.length_cons] at size
      omega
    simp only [List.append_assoc, List.cons_append]
    rw [step next]
    exact readFieldMembers_append faithful' more later onward (by omega) enough rest

/-- A record whose members are written without blanks is read as they are written. -/
theorem record_parse_render (what : String) {empty a : σ}
    {ms : Members}
    (faithful : ∀ m ∈ ms, ∀ f ∈ fields, f.name = m.1 → f.set.FaithfulAt m.2.ordered)
    (numbers : ∀ n ∈ (Value.object ms).numbers, n.Exact)
    (nested : (Value.object ms).depth ≤ maxDepth) (known : ∀ m ∈ ms, m.1 ∈ fields.map Field.name)
    (found : membersOfValue fields [] (ms.map fun m => (m.1, m.2.ordered)) empty = .ok a) :
    (record what fields empty).parse (Value.object ms).render = .ok a := by
  have nested := Value.depth_object_le.mp nested
  have spelled : Separated (SpellsMember (Spells 126)) (ms.map fun m => (m.1, m.2.ordered))
      (membersChars ms) := by
    rw [membersChars_eq]
    exact separated_joined fun m hm => spellsMember_memberChars
      (spells_chars (fun n hn => numbers n (Value.mem_numbers_object.mpr ⟨m, hm, hn⟩))
        (nested m hm))
  have chars : (Value.object ms).render.toList = '\x7b' :: (membersChars ms ++ ['\x7d']) := by
    simp [Value.render, Value.chars]
  have read := readFieldMembers_first (List.forall_mem_map.mpr faithful) spelled
    (List.forall_mem_map.mpr known) found
    (show _ < loopBound ('\x7b' :: (membersChars ms ++ ['\x7d'])) by simp [loopBound]; omega) []
  simp only [parse, chars, readAll, record, maxDepth,
    skipSpace_cons (show isSpace '\x7b' = false by decide), read]
  rfl

end Records

end Decoder

end Switchboard.Json
