import Switchboard.Proofs.Json.Shape
import Switchboard.Proofs.Json.Tokens

/-!
# The reader of documents accepts the grammar

`Value.parse_eq_ok_iff`: a text is read as a document exactly when it holds that document. Lists and
records are read by loops over a reader of their parts, so what such a reader takes off the front is
said once, as `Reads`, and each loop is shown to keep it.
-/

namespace Switchboard.Json

/-- A reader takes off everything that is spelled at the front, behind blanks, if it is not longer
than the bound and is not a number that goes on behind it. No spelling starts with a blank or with
the end of a list. -/
structure Takes {α : Type} (read : Reader α) (Item : α → List Char → Prop) (bound : Nat) :
    Prop where
  complete : ∀ {before front rest : List Char} {a : α}, Blanks before → Item a front →
    front.length ≤ bound → (∀ c ∈ rest.head?, continuesNumber c = false) →
    read (before ++ (front ++ rest)) = .ok (a, rest)
  starts : ∀ {front : List Char} {a : α}, Item a front →
    ∃ c tail, front = c :: tail ∧ isSpace c = false ∧ c ≠ ']'

/-- A reader takes off what is spelled there, and nothing else. -/
structure Reads {α : Type} (read : Reader α) (Item : α → List Char → Prop) (bound : Nat) : Prop
    extends Takes read Item bound where
  sound : ∀ {cs rest : List Char} {a : α}, read cs = .ok (a, rest) →
    ∃ before front, Blanks before ∧ Item a front ∧ cs = before ++ (front ++ rest)

variable {α : Type} {read : Reader α} {Item : α → List Char → Prop} {bound : Nat}

theorem Reads.sound_skipSpace (h : Reads read Item bound) {cs rest : List Char} {a : α}
    (found : read (skipSpace cs) = .ok (a, rest)) :
    ∃ before front, Blanks before ∧ Item a front ∧ cs = before ++ (front ++ rest) := by
  obtain ⟨skipped, blanks, split⟩ := exists_blanks cs
  obtain ⟨before, front, blanks', item, split'⟩ := h.sound found
  exact ⟨skipped ++ before, front, blanks.append blanks', item,
    by rw [split, split', List.append_assoc]⟩

theorem Takes.skipSpace_complete (h : Takes read Item bound) {before front rest : List Char} {a : α}
    (blanks : Blanks before) (item : Item a front) (size : front.length ≤ bound)
    (ends : ∀ c ∈ rest.head?, continuesNumber c = false) :
    ∃ c cs, skipSpace (before ++ (front ++ rest)) = c :: cs ∧ c ≠ ']' ∧
      read (c :: cs) = .ok (a, rest) := by
  obtain ⟨c, tail, rfl, noBlank, noEnd⟩ := h.starts item
  exact ⟨c, tail ++ rest, skipSpace_append_cons blanks noBlank _, noEnd,
    h.complete Blanks.nil item size ends⟩

/-! ### Lists -/

theorem Further.ends_number {others : List α} {tail : List Char} {close : Char}
    (h : Further Item others tail) (hc : continuesNumber close = false) (rest : List Char) :
    ∀ c ∈ (tail ++ close :: rest).head?, continuesNumber c = false := by
  cases h with
  | none blanks => exact blanks.ends_number (by simpa using hc)
  | next blanks =>
    rw [List.append_assoc]
    exact blanks.ends_number (by simp [continuesNumber, isDigit])

theorem Further.length_le {others : List α} {tail : List Char} (h : Further Item others tail) :
    others.length ≤ tail.length := by
  induction h with
  | none => simp
  | next _ _ _ _ ih =>
    simp only [List.length_cons, List.length_append]
    omega

theorem readMoreItems_append (h : Takes read Item bound) {others : List α} {tail : List Char}
    (spelled : Further Item others tail) (size : tail.length ≤ bound) {rounds : Nat}
    (enough : others.length < rounds) (acc : List α) (rest : List Char) :
    readMoreItems read rounds acc (tail ++ ']' :: rest) = .ok (acc.reverse ++ others, rest) := by
  induction spelled generalizing rounds acc with
  | none blanks =>
    obtain ⟨rounds, rfl⟩ := Nat.exists_eq_add_of_lt enough
    simp [readMoreItems, skipSpace_append_cons blanks (show isSpace ']' = false by decide)]
  | @next a others after before cs tail blanks blanks' item more ih =>
    obtain ⟨rounds, rfl⟩ := Nat.exists_eq_add_of_lt enough
    simp only [List.length_append, List.length_cons] at size
    obtain ⟨c, cs', skipped, noEnd, found⟩ := h.skipSpace_complete blanks' item (by omega)
      (more.ends_number (by decide : continuesNumber ']' = false) rest)
    have onward := ih (by omega)
      (show others.length < (a :: others).length + rounds by simp only [List.length_cons]; omega)
      (a :: acc)
    simp only [List.append_assoc, List.cons_append, readMoreItems,
      skipSpace_append_cons blanks (show isSpace ',' = false by decide), skipped]
    split
    · contradiction
    · next tail' same => exact absurd (List.cons.inj same).1 noEnd
    · rw [found, ok_bind, onward]
      simp

theorem spells_of_readMoreItems (h : Reads read Item bound) {rounds : Nat} {acc items : List α}
    {cs rest : List Char} (found : readMoreItems read rounds acc cs = .ok (items, rest)) :
    ∃ others tail, items = acc.reverse ++ others ∧ Further Item others tail ∧
      cs = tail ++ ']' :: rest := by
  fun_induction readMoreItems read rounds acc cs with
  | case3 rounds acc cs tail closed =>
    obtain ⟨rfl, rfl⟩ := Prod.mk.inj (Except.ok.inj found)
    obtain ⟨before, blanks, rfl⟩ := exists_blanks_of_skipSpace_eq closed
    exact ⟨[], before, by simp, .none blanks, rfl⟩
  | case6 rounds acc cs tail comma _ _ ih =>
    obtain ⟨a, behind, foundItem, onward⟩ := bind_eq_ok.mp found
    obtain ⟨others, front, rfl, more, rfl⟩ := ih a behind onward
    obtain ⟨after, blanks, rfl⟩ := exists_blanks_of_skipSpace_eq comma
    obtain ⟨before, front', blanks', item, rfl⟩ := h.sound_skipSpace foundItem
    exact ⟨a :: others, _, by simp, .next blanks blanks' item more, by simp⟩
  | _ => cases found

theorem readItems_append (h : Takes read Item bound) {items : List α} {cs : List Char}
    (spelled : Separated Item items cs) (size : cs.length ≤ bound) (rest : List Char) :
    readItems read bound (cs ++ ']' :: rest) = .ok (items, rest) := by
  cases spelled with
  | none blanks =>
    simp [readItems, skipSpace_append_cons blanks (show isSpace ']' = false by decide)]
  | @some a others before cs tail blanks item more =>
    simp only [List.length_append] at size
    obtain ⟨c, cs', skipped, noEnd, found⟩ := h.skipSpace_complete blanks item (by omega)
      (more.ends_number (by decide : continuesNumber ']' = false) rest)
    have nonempty : cs ≠ [] := by
      obtain ⟨c, tail, rfl, -⟩ := h.starts item
      simp
    have enough : others.length < bound := by
      have := more.length_le
      have := List.length_pos_iff.mpr nonempty
      omega
    simp only [List.append_assoc, readItems, skipped]
    split
    · contradiction
    · next tail' same => exact absurd (List.cons.inj same).1 noEnd
    · rw [found, ok_bind, readMoreItems_append h more (by omega) enough]
      rfl

theorem spells_of_readItems (h : Reads read Item bound) {items : List α} {cs rest : List Char}
    (found : readItems read bound cs = .ok (items, rest)) :
    ∃ front, Separated Item items front ∧ cs = front ++ ']' :: rest := by
  unfold readItems at found
  split at found
  · cases found
  · next tail closed =>
    obtain ⟨rfl, rfl⟩ := Prod.mk.inj (Except.ok.inj found)
    obtain ⟨before, blanks, rfl⟩ := exists_blanks_of_skipSpace_eq closed
    exact ⟨before, .none blanks, rfl⟩
  · obtain ⟨a, behind, foundItem, onward⟩ := bind_eq_ok.mp found
    obtain ⟨others, tail, rfl, more, rfl⟩ := spells_of_readMoreItems h onward
    obtain ⟨before, front, blanks, item, rfl⟩ := h.sound_skipSpace foundItem
    exact ⟨_, .some blanks item more, by simp⟩

/-! ### Records -/

theorem readColon_append {before : List Char} (h : Blanks before) (rest : List Char) :
    readColon (before ++ ':' :: rest) = .ok ((), rest) := by
  simp [readColon, skipSpace_append_cons h (show isSpace ':' = false by decide)]

theorem blanks_of_readColon {cs rest : List Char} {u : Unit} (h : readColon cs = .ok (u, rest)) :
    ∃ before, Blanks before ∧ cs = before ++ ':' :: rest := by
  unfold readColon at h
  split at h
  · next tail colon =>
    obtain ⟨-, rfl⟩ := Prod.mk.inj (Except.ok.inj h)
    exact exists_blanks_of_skipSpace_eq colon
  all_goals cases h

theorem readMember_append (h : Reads read Item bound) {m : String × α} {cs : List Char}
    (spelled : SpellsMember Item m cs) (size : cs.length ≤ bound) {rest : List Char}
    (ends : ∀ c ∈ rest.head?, continuesNumber c = false) :
    ∃ tail, cs = '"' :: tail ∧ readMember read (tail ++ rest) = .ok (m, rest) := by
  obtain @⟨name, a, _, before, after, cs, ⟨inner, text, rfl⟩, blanks, blanks', item⟩ := spelled
  refine ⟨inner ++ '"' :: (before ++ ':' :: (after ++ cs)), by simp, ?_⟩
  simp only [List.length_append, List.length_cons] at size
  simp only [readMember, List.append_assoc, List.cons_append, readString_append text,
    readColon_append blanks, ok_bind, h.complete blanks' item (by omega) ends]

theorem spells_of_readMember (h : Reads read Item bound) {m : String × α} {cs rest : List Char}
    (found : readMember read cs = .ok (m, rest)) :
    ∃ front, SpellsMember Item m ('"' :: front) ∧ cs = front ++ rest := by
  obtain ⟨name, behindName, foundName, parted⟩ := bind_eq_ok.mp found
  obtain ⟨u, behindColon, foundColon, parted⟩ := bind_eq_ok.mp parted
  obtain ⟨a, behind, foundItem, parted⟩ := bind_eq_ok.mp parted
  obtain ⟨rfl, rfl⟩ := Prod.mk.inj (Except.ok.inj parted)
  obtain ⟨inner, text, rfl⟩ := spells_of_readString foundName
  obtain ⟨before, blanks, rfl⟩ := blanks_of_readColon foundColon
  obtain ⟨after, front, blanks', item, rfl⟩ := h.sound foundItem
  exact ⟨inner ++ '"' :: (before ++ ':' :: (after ++ front)),
    by simpa using SpellsMember.named ⟨inner, text, rfl⟩ blanks blanks' item, by simp⟩

theorem readNextName_close (first : Bool) {before : List Char} (h : Blanks before)
    (rest : List Char) : readNextName first (before ++ '\x7d' :: rest) = .ok (false, rest) := by
  simp [readNextName, skipSpace_append_cons h (show isSpace '\x7d' = false by decide)]

theorem readNextName_first {before : List Char} (h : Blanks before) (rest : List Char) :
    readNextName true (before ++ '"' :: rest) = .ok (true, rest) := by
  simp [readNextName, skipSpace_append_cons h (show isSpace '"' = false by decide)]

theorem readNextName_next {after before : List Char} (h : Blanks after) (h' : Blanks before)
    (rest : List Char) :
    readNextName false (after ++ ',' :: (before ++ '"' :: rest)) = .ok (true, rest) := by
  simp [readNextName, skipSpace_append_cons h (show isSpace ',' = false by decide),
    skipSpace_append_cons h' (show isSpace '"' = false by decide)]

theorem blanks_of_readNextName {first named : Bool} {cs rest : List Char}
    (h : readNextName first cs = .ok (named, rest)) :
    ∃ before, Blanks before ∧
      (named = false ∧ cs = before ++ '\x7d' :: rest ∨
        named = true ∧ first = true ∧ cs = before ++ '"' :: rest ∨
        named = true ∧ first = false ∧ ∃ after, Blanks after ∧
          cs = after ++ ',' :: (before ++ '"' :: rest)) := by
  unfold readNextName at h
  split at h
  · cases h
  · next tail close =>
    obtain ⟨rfl, rfl⟩ := Prod.mk.inj (Except.ok.inj h)
    obtain ⟨before, blanks, rfl⟩ := exists_blanks_of_skipSpace_eq close
    exact ⟨before, blanks, .inl ⟨rfl, rfl⟩⟩
  · next tail comma =>
    split at h
    · cases h
    next later =>
    split at h
    · next tail' quote =>
      obtain ⟨rfl, rfl⟩ := Prod.mk.inj (Except.ok.inj h)
      obtain ⟨after, blanks, rfl⟩ := exists_blanks_of_skipSpace_eq comma
      obtain ⟨before, blanks', rfl⟩ := exists_blanks_of_skipSpace_eq quote
      exact ⟨before, blanks', .inr (.inr ⟨rfl, by simpa using later, after, blanks, rfl⟩)⟩
    all_goals cases h
  · next tail quote =>
    split at h
    · next isFirst =>
      obtain ⟨rfl, rfl⟩ := Prod.mk.inj (Except.ok.inj h)
      obtain ⟨before, blanks, rfl⟩ := exists_blanks_of_skipSpace_eq quote
      exact ⟨before, blanks, .inr (.inl ⟨rfl, isFirst, rfl⟩)⟩
    · cases h
  · cases h

theorem readMembers_append (h : Reads read Item bound) {others : List (String × α)}
    {tail : List Char} (spelled : Further (SpellsMember Item) others tail)
    (size : tail.length ≤ bound) {rounds : Nat} (enough : others.length < rounds)
    (acc : List (String × α)) (rest : List Char) :
    readMembers read rounds false acc (tail ++ '\x7d' :: rest) =
      .ok (acc.reverse ++ others, rest) := by
  induction spelled generalizing rounds acc with
  | none blanks =>
    obtain ⟨rounds, rfl⟩ := Nat.exists_eq_add_of_lt enough
    simp [readMembers, readNextName_close false blanks]
  | @next m others after before cs tail blanks blanks' member more ih =>
    obtain ⟨rounds, rfl⟩ := Nat.exists_eq_add_of_lt enough
    simp only [List.length_append, List.length_cons] at size
    obtain ⟨inner, rfl, found⟩ := readMember_append h member (by omega)
      (more.ends_number (by decide : continuesNumber '\x7d' = false) rest)
    have onward := ih (by omega)
      (show others.length < (m :: others).length + rounds by simp only [List.length_cons]; omega)
      (m :: acc)
    simp only [List.append_assoc, List.cons_append, readMembers, readNextName_next blanks blanks',
      ok_bind, if_true, found, onward]
    simp

theorem readMembers_first (h : Reads read Item bound) {members : List (String × α)}
    {cs : List Char} (spelled : Separated (SpellsMember Item) members cs)
    (size : cs.length < bound) (rest : List Char) :
    readMembers read bound true [] (cs ++ '\x7d' :: rest) = .ok (members, rest) := by
  obtain ⟨rounds, rfl⟩ : ∃ rounds, bound = rounds + 1 := ⟨bound - 1, by omega⟩
  cases spelled with
  | none blanks => simp [readMembers, readNextName_close true blanks]
  | @some m others before cs tail blanks member more =>
    simp only [List.length_append] at size
    obtain ⟨inner, rfl, found⟩ := readMember_append h member (by omega)
      (more.ends_number (by decide : continuesNumber '\x7d' = false) rest)
    have enough : others.length < rounds := by
      have := more.length_le
      simp only [List.length_cons] at size
      omega
    simp only [List.append_assoc, List.cons_append, readMembers, readNextName_first blanks,
      ok_bind, if_true, found, readMembers_append h more (by omega) enough]
    rfl

theorem spells_of_readMembers (h : Reads read Item bound) {rounds : Nat} {first : Bool}
    {acc members : List (String × α)} {cs rest : List Char}
    (found : readMembers read rounds first acc cs = .ok (members, rest)) :
    ∃ others tail, members = acc.reverse ++ others ∧ cs = tail ++ '\x7d' :: rest ∧
      (if first then Separated (SpellsMember Item) others tail
        else Further (SpellsMember Item) others tail) := by
  induction rounds generalizing first acc cs with
  | zero => cases found
  | succ rounds ih =>
    obtain ⟨named, behind, next, parted⟩ := bind_eq_ok.mp found
    obtain ⟨before, blanks, ⟨rfl, rfl⟩ | ⟨rfl, rfl, rfl⟩ | ⟨rfl, rfl, after, blanks', rfl⟩⟩ :=
      blanks_of_readNextName next
    · obtain ⟨rfl, rfl⟩ := Prod.mk.inj (Except.ok.inj parted)
      refine ⟨[], before, by simp, rfl, ?_⟩
      split
      · exact .none blanks
      · exact .none blanks
    · obtain ⟨m, behind, foundMember, onward⟩ := bind_eq_ok.mp parted
      obtain ⟨others, tail, rfl, rfl, more⟩ := ih onward
      obtain ⟨front, member, rfl⟩ := spells_of_readMember h foundMember
      exact ⟨m :: others, _, by simp, by simp, .some blanks member more⟩
    · obtain ⟨m, behind, foundMember, onward⟩ := bind_eq_ok.mp parted
      obtain ⟨others, tail, rfl, rfl, more⟩ := ih onward
      obtain ⟨front, member, rfl⟩ := spells_of_readMember h foundMember
      exact ⟨m :: others, _, by simp, by simp, .next blanks' blanks member more⟩

/-! ### Documents -/

theorem SpellsScalar.starts {v : Value} {cs : List Char} (h : SpellsScalar v cs) :
    ∃ c tail, cs = c :: tail ∧ isSpace c = false ∧ c ∉ [']', '[', '\x7b'] := by
  cases h with
  | null | bool_true | bool_false => exact ⟨_, _, rfl, by decide, by decide⟩
  | string spelled =>
    obtain ⟨inner, -, rfl⟩ := spelled
    exact ⟨'"', _, rfl, by decide, by decide⟩
  | number spelled =>
    obtain ⟨c, tail, rfl, sign⟩ := spelled.starts
    refine ⟨c, tail, rfl, isSpace_of_startsNumber sign, ?_⟩
    simp only [List.mem_cons, List.not_mem_nil, or_false, not_or]
    exact ⟨ne_of_startsNumber sign (by decide), ne_of_startsNumber sign (by decide),
      ne_of_startsNumber sign (by decide)⟩

theorem scalar_append {v : Value} {cs rest : List Char} (h : SpellsScalar v cs)
    (ends : ∀ c ∈ rest.head?, continuesNumber c = false) :
    scalar? (cs ++ rest) = some (.ok (v, rest)) := by
  cases h with
  | null | bool_true | bool_false => rfl
  | string spelled =>
    obtain ⟨inner, text, rfl⟩ := spelled
    simp only [List.append_assoc, List.cons_append, List.nil_append, scalar?,
      readString_append text]
  | number spelled stands =>
    obtain ⟨c, tail, rfl, sign⟩ := spelled.starts
    have found := readNumber_append spelled stands ends
    rw [List.cons_append] at found
    rw [List.cons_append, scalar?.eq_5 _ _ (ne_of_startsNumber sign (by decide))
      (ne_of_startsNumber sign (by decide)) (ne_of_startsNumber sign (by decide))
      (ne_of_startsNumber sign (by decide)), if_pos sign, found]

theorem spells_of_scalar {v : Value} {cs rest : List Char}
    (h : scalar? cs = some (.ok (v, rest))) :
    ∃ front, SpellsScalar v front ∧ cs = front ++ rest := by
  unfold scalar? at h
  split at h
  · obtain ⟨rfl, rfl⟩ := eq_of_readWord (Option.some.inj h)
    exact ⟨_, .null, rfl⟩
  · obtain ⟨rfl, rfl⟩ := eq_of_readWord (Option.some.inj h)
    exact ⟨_, .bool_true, rfl⟩
  · obtain ⟨rfl, rfl⟩ := eq_of_readWord (Option.some.inj h)
    exact ⟨_, .bool_false, rfl⟩
  · next tail =>
    cases found : readString tail with
    | error stop => simp [found] at h
    | ok read =>
      obtain ⟨s, behind⟩ := read
      simp only [found, Option.some.injEq, Except.ok.injEq, Prod.mk.injEq] at h
      obtain ⟨rfl, rfl⟩ := h
      obtain ⟨inner, text, rfl⟩ := spells_of_readString found
      exact ⟨_, .string ⟨inner, text, rfl⟩, by simp⟩
  · next c tail _ _ _ _ =>
    split at h
    · cases found : readNumber (c :: tail) with
      | error stop => simp [found] at h
      | ok read =>
        obtain ⟨n, behind⟩ := read
        simp only [found, Option.some.injEq, Except.ok.injEq, Prod.mk.injEq] at h
        obtain ⟨rfl, rfl⟩ := h
        obtain ⟨numeral, front, spelled, stands, split⟩ := spells_of_readNumber found
        exact ⟨front, .number spelled stands, split⟩
    · cases h
  · cases h

theorem Spells.starts {depth : Nat} {v : Value} {cs : List Char} (h : Spells depth v cs) :
    ∃ c tail, cs = c :: tail ∧ isSpace c = false ∧ c ≠ ']' := by
  have scalar (h : SpellsScalar v cs) : ∃ c tail, cs = c :: tail ∧ isSpace c = false ∧ c ≠ ']' := by
    obtain ⟨c, tail, rfl, noBlank, no⟩ := h.starts
    exact ⟨c, tail, rfl, noBlank, fun h => no (by simp [h])⟩
  cases depth with
  | zero => exact scalar h
  | succ depth =>
    obtain h | ⟨spelled⟩ | ⟨spelled⟩ := h
    · exact scalar h
    · exact ⟨'[', _, rfl, by decide, by decide⟩
    · exact ⟨'\x7b', _, rfl, by decide, by decide⟩

theorem readValue_scalar (bound depth : Nat) {v : Value} {before cs rest : List Char}
    (blanks : Blanks before) (h : SpellsScalar v cs)
    (ends : ∀ c ∈ rest.head?, continuesNumber c = false) :
    readValue bound depth (before ++ (cs ++ rest)) = .ok (v, rest) := by
  have found := scalar_append h ends
  obtain ⟨c, tail, rfl, noBlank, no⟩ := h.starts
  simp only [List.mem_cons, List.not_mem_nil, or_false, not_or] at no
  have skipped := skipSpace_append_cons blanks noBlank (tail ++ rest)
  rw [List.cons_append] at found ⊢
  cases depth <;>
  · simp only [readValue, skipped]
    split
    · contradiction
    · next same => exact absurd (List.cons.inj same).1 no.2.1
    · next same => exact absurd (List.cons.inj same).1 no.2.2
    · rw [found, Option.getD_some]

theorem spells_of_scalar_getD {stop : Stop} {v : Value} {cs rest : List Char}
    (h : (scalar? (skipSpace cs)).getD (.error stop) = .ok (v, rest)) :
    ∃ before front, Blanks before ∧ SpellsScalar v front ∧ cs = before ++ (front ++ rest) := by
  cases found : scalar? (skipSpace cs) with
  | none => simp [found] at h
  | some read =>
    simp only [found, Option.getD_some] at h
    subst h
    obtain ⟨front, spelled, split⟩ := spells_of_scalar found
    obtain ⟨before, blanks, rfl⟩ := exists_blanks_of_skipSpace_eq split
    exact ⟨before, front, blanks, spelled, rfl⟩

/-- The reader of documents takes off what is spelled, by induction on the depth that is left. -/
theorem reads_readValue (bound depth : Nat) :
    Reads (readValue bound depth) (Spells depth) bound := by
  induction depth with
  | zero =>
    refine ⟨⟨fun blanks h _ ends => readValue_scalar bound 0 blanks h ends, Spells.starts⟩,
      fun found => ?_⟩
    unfold readValue at found
    split at found
    iterate 3 cases found
    exact spells_of_scalar_getD found
  | succ depth ih =>
    refine ⟨⟨fun blanks h size ends => ?complete, Spells.starts⟩, fun found => ?sound⟩
    case sound =>
      unfold readValue at found
      split at found
      · cases found
      · next tail opened =>
        obtain ⟨items, behind, foundItems, parted⟩ := bind_eq_ok.mp found
        obtain ⟨rfl, rfl⟩ := Prod.mk.inj (Except.ok.inj parted)
        obtain ⟨front, spelled, rfl⟩ := spells_of_readItems ih foundItems
        obtain ⟨before, blanks, rfl⟩ := exists_blanks_of_skipSpace_eq opened
        exact ⟨before, _, blanks, .inr (.array spelled), by simp⟩
      · next tail opened =>
        obtain ⟨members, behind, foundMembers, parted⟩ := bind_eq_ok.mp found
        obtain ⟨rfl, rfl⟩ := Prod.mk.inj (Except.ok.inj parted)
        obtain ⟨others, front, rfl, rfl, spelled⟩ := spells_of_readMembers ih foundMembers
        obtain ⟨before, blanks, rfl⟩ := exists_blanks_of_skipSpace_eq opened
        exact ⟨before, _, blanks, .inr (.object spelled), by simp⟩
      · obtain ⟨before, front, blanks, spelled, split⟩ := spells_of_scalar_getD found
        exact ⟨before, front, blanks, .inl spelled, split⟩
    case complete =>
      obtain h | @⟨items, cs, spelled⟩ | @⟨written, cs, spelled⟩ := h
      · exact readValue_scalar bound _ blanks h ends
      · simp only [List.length_cons, List.length_append] at size
        simp only [List.cons_append, List.append_assoc, List.nil_append, readValue,
          skipSpace_append_cons blanks (show isSpace '[' = false by decide),
          readItems_append ih.toTakes spelled (by omega), ok_bind]
      · simp only [List.length_cons, List.length_append] at size
        simp only [List.cons_append, List.append_assoc, List.nil_append, readValue,
          skipSpace_append_cons blanks (show isSpace '\x7b' = false by decide),
          readMembers_first ih spelled (by omega), ok_bind]

/-! ### Whole texts -/

/-- A text is read as a document exactly when it holds that document. -/
theorem Value.parse_eq_ok_iff {text : String} {v : Value} :
    Value.parse text = .ok v ↔ Document text v := by
  have reads := reads_readValue (loopBound text.toList) maxDepth
  constructor
  · intro h
    simp only [Value.parse, readAll] at h
    split at h
    · cases h
    next w rest found =>
    split at h
    · next ended =>
      obtain rfl := Except.ok.inj h
      obtain ⟨before, front, blanks, spelled, split⟩ := reads.sound found
      obtain ⟨after, blanks', rfl⟩ := exists_blanks_of_skipSpace_eq ended
      exact ⟨before, front, after, blanks, spelled, blanks', by simpa using split⟩
    · cases h
  · rintro ⟨before, front, after, blanks, spelled, blanks', split⟩
    have size : front.length ≤ loopBound text.toList := by
      simp only [loopBound, split, List.length_append]
      omega
    have ends : ∀ c ∈ after.head?, continuesNumber c = false := by
      simpa using blanks'.ends_number (show ∀ c ∈ ([] : List Char).head?, _ by simp)
    have found := reads.complete blanks spelled size ends
    rw [← split] at found
    simp only [Value.parse, readAll, found, skipSpace_of_blanks blanks']

theorem Document.unique {text : String} {v w : Value} (h : Document text v)
    (h' : Document text w) : v = w :=
  Except.ok.inj ((Value.parse_eq_ok_iff.mpr h).symm.trans (Value.parse_eq_ok_iff.mpr h'))

/-! ### What is read is in order -/

theorem Further.forall_mem {others : List α} {tail : List Char} (h : Further Item others tail) :
    ∀ a ∈ others, ∃ cs, Item a cs := by
  induction h with
  | none => exact List.forall_mem_nil _
  | next _ _ item _ ih => exact List.forall_mem_cons.mpr ⟨⟨_, item⟩, ih⟩

theorem Separated.forall_mem {items : List α} {cs : List Char} (h : Separated Item items cs) :
    ∀ a ∈ items, ∃ cs, Item a cs := by
  cases h with
  | none => exact List.forall_mem_nil _
  | some _ item more => exact List.forall_mem_cons.mpr ⟨⟨_, item⟩, more.forall_mem⟩

theorem Spells.ordered {depth : Nat} {v : Value} {cs : List Char} (h : Spells depth v cs) :
    v.Ordered := by
  have scalar {v : Value} {cs : List Char} (h : SpellsScalar v cs) : v.Ordered := by
    cases h <;> constructor
  induction depth generalizing v cs with
  | zero => exact scalar h
  | succ depth ih =>
    rcases h with h | ⟨spelled⟩ | ⟨spelled⟩
    · exact scalar h
    · refine .array fun v hv => ?_
      obtain ⟨cs, item⟩ := spelled.forall_mem v hv
      exact ih item
    · refine .object (Members.ofList_ascending _) fun m hm => ?_
      obtain ⟨cs, member⟩ := spelled.forall_mem m (Members.mem_ofList hm)
      obtain ⟨-, -, -, item⟩ := member
      exact ih item

/-- The records of a document that a text holds have ascending names, each once. -/
theorem Document.ordered {text : String} {v : Value} (h : Document text v) : v.Ordered := by
  obtain ⟨before, cs, after, -, spelled, -, -⟩ := h
  exact spelled.ordered

end Switchboard.Json
