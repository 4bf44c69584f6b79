import ApiDiscovery.Json.Stream
import ApiDiscovery.Proofs.Json.Passing
import ApiDiscovery.Proofs.Json.Record

/-!
# Typed data from text and from values

A reading straight from text agrees with a decoder of values if it stops where
the value stops and gives what the value is decoded as, wherever all three
succeed.  Agreement goes up from fields to records and from entries to tables.
A repeated field stops the reading from text, so nothing is left to compare; of
repeated entries of a table both sides keep the last.
-/

namespace ApiDiscovery.Json

variable {σ ρ α β : Type}

/-! ## Values by their first character -/

section

variable {levels : Nat} {text behind rest : List Char} {value : Json}

theorem readValue_of_n (ahead : skipSpace text = 'n' :: behind)
    (read : readValue levels text = .ok (value, rest)) :
    value = .null ∧ word ['u', 'l', 'l'] behind = .ok rest := by
  rw [readValue, ahead] at read
  obtain ⟨after, done, same⟩ := except_map_eq_ok_iff.1 read
  cases same
  exact ⟨rfl, done⟩

theorem readValue_of_quote (ahead : skipSpace text = '"' :: behind)
    (read : readValue levels text = .ok (value, rest)) :
    ∃ content, value = .string content ∧ readString .kept behind = .ok (content, rest) := by
  rw [readValue, ahead] at read
  obtain ⟨⟨content, after⟩, done, same⟩ := except_map_eq_ok_iff.1 read
  cases same
  exact ⟨content, rfl, done⟩

theorem readValue_of_bracket (ahead : skipSpace text = '[' :: behind)
    (read : readValue levels text = .ok (value, rest)) :
    ∃ inner items, value = .array items ∧
      readItems .kept (readValue inner) (behind.length + 1) true behind = .ok (items, rest) := by
  rw [readValue, ahead] at read
  cases levels with
  | zero => cases read
  | succ inner =>
      obtain ⟨⟨items, after⟩, done, same⟩ := except_map_eq_ok_iff.1 read
      cases same
      exact ⟨inner, items, rfl, done⟩

theorem readValue_of_brace (ahead : skipSpace text = '\x7b' :: behind)
    (read : readValue levels text = .ok (value, rest)) :
    ∃ inner members, value = ofMembers members ∧
      readMembers .kept (fun _ => readValue inner) (behind.length + 1) true behind =
        .ok (members, rest) := by
  rw [readValue, ahead] at read
  cases levels with
  | zero => cases read
  | succ inner =>
      obtain ⟨⟨members, after⟩, done, same⟩ := except_map_eq_ok_iff.1 read
      cases same
      exact ⟨inner, members, rfl, done⟩

end

/-! ## Agreement with a decoder -/

/-- The value is decoded as that content, if it is decoded at all. -/
def OnlyAs (decode : β → Except Mismatch α) (content : α) (value : β) : Prop :=
  ∀ ⦃other⦄, decode value = .ok other → content = other

/--
A reading straight from text gives what the value in its place is decoded as,
however deeply the value may nest.
-/
def AgreesWith (stream : Reader α) (decode : Json → Except Mismatch α) : Prop :=
  ∀ levels, Agree (OnlyAs decode) stream (readValue levels)

namespace Stream

theorem readText?_agrees (expected : Expected) :
    AgreesWith (readText? expected) (toText? expected) := by
  intro levels text text' content value rest rest' blanks streamed kept
  rw [readText?] at streamed
  split at streamed
  · next behind ahead =>
      obtain ⟨after, done, same⟩ := except_map_eq_ok_iff.1 streamed
      obtain ⟨rfl, doneToo⟩ := readValue_of_n (blanks ▸ ahead) kept
      cases same
      cases done.symm.trans doneToo
      exact ⟨fun other decoded => Except.ok.inj decoded, rfl⟩
  · obtain ⟨⟨letters, after⟩, done, same⟩ := except_map_eq_ok_iff.1 streamed
    rw [readText, skipSpace_idem] at done
    cases same
    split at done
    · next behind ahead =>
        obtain ⟨letters', rfl, doneToo⟩ := readValue_of_quote (blanks ▸ ahead) kept
        cases done.symm.trans doneToo
        exact ⟨fun other decoded => Except.ok.inj decoded, rfl⟩
    · cases done

/-! ## Records by position -/

/-- The field of a text record reads the part of the same name and puts it in place. -/
structure Field.Reads (field : Field σ) (part : Part σ) : Prop where
  name_eq : field.name = part.name
  reads : ∃ held : Reader part.Held, AgreesWith held part.read ∧ ∀ record text,
    field.read record text = (held text).map fun result => (part.set result.1 record, result.2)

theorem Field.Reads.agree {field : Field σ} {part : Part σ} (reads : field.Reads part)
    {levels : Nat} {record next : σ} {text text' rest rest' : List Char} {value : Json}
    (blanks : skipSpace text = skipSpace text')
    (streamed : field.read record text = .ok (next, rest))
    (kept : readValue levels text' = .ok (value, rest')) :
    (∃ held, next = part.set held record ∧ OnlyAs part.read held value) ∧ rest = rest' := by
  obtain ⟨held, agree, puts⟩ := reads.reads
  rw [puts] at streamed
  obtain ⟨⟨content, after⟩, done, same⟩ := except_map_eq_ok_iff.1 streamed
  cases same
  obtain ⟨only, ends⟩ := agree levels blanks done kept
  exact ⟨⟨content, rfl, only⟩, ends⟩

theorem skipSpace_of_closeList {text rest : List Char} (closed : closeList text = .ok rest) :
    skipSpace text = ']' :: rest := by
  rw [closeList] at closed
  split at closed
  · cases closed
  · next c behind ahead =>
      split at closed
      · next bracket =>
          cases closed
          rw [ahead, bracket]
      · split at closed
        · split at closed <;> cases closed
        · cases closed

theorem nextItem_of_bracket {care : Care} {first : Bool} {text rest : List Char}
    (ahead : skipSpace text = ']' :: rest) : nextItem care first text = .ok (.close rest) := by
  rw [nextItem, ahead]
  rfl

theorem readItems_cons_eq_ok {field : Field σ} {fields : List (Field σ)} {first : Bool}
    {text rest : List Char} {record final : σ}
    (read : readItems first (field :: fields) record text = .ok (final, rest)) :
    (nextItem .kept first text = .ok (.close rest) ∧ final = record) ∨
      ∃ itemText next behind, nextItem .kept first text = .ok (.part itemText) ∧
        field.read record itemText = .ok (next, behind) ∧
        readItems false fields next behind = .ok (final, rest) := by
  rw [readItems] at read
  split at read
  · cases read
  · next closed =>
      cases read
      exact .inl ⟨closed, rfl⟩
  · next itemText isNext =>
      split at read
      · cases read
      · next next behind done => exact .inr ⟨itemText, next, behind, isNext, done, read⟩

/-- Items enter a record alike, whether they are read into it or decoded first. -/
theorem readItems_agree {fields : List (Field σ)} {parts : List (Part σ)}
    (each : List.Forall₂ Field.Reads fields parts) {levels bound : Nat} {first : Bool}
    {text rest rest' : List Char} {record final : σ} {values : List Json}
    (streamed : readItems first fields record text = .ok (final, rest))
    (kept : Json.readItems .kept (readValue levels) bound first text = .ok (values, rest')) :
    OnlyAs (fun values => storeItems (parts.map Part.toField) values record) final values ∧
      rest = rest' := by
  induction each generalizing bound first text record values with
  | nil =>
      rw [readItems] at streamed
      obtain ⟨after, closed, same⟩ := except_map_eq_ok_iff.1 streamed
      cases same
      have ends : nextItem .kept first text = .ok (.close rest) :=
        nextItem_of_bracket (skipSpace_of_closeList closed)
      rcases readItems_eq_ok kept with ⟨closedToo, rfl⟩ | ⟨_, _, _, _, isNext, _, _, _⟩
      · cases ends.symm.trans closedToo
        exact ⟨fun other stored => Except.ok.inj stored, rfl⟩
      · cases ends.symm.trans isNext
  | @cons field part fields parts reads others ih =>
      rcases readItems_cons_eq_ok streamed with
        ⟨closed, rfl⟩ | ⟨itemText, next, behind, isNext, done, later⟩
      · rcases readItems_eq_ok kept with ⟨closedToo, rfl⟩ | ⟨_, _, _, _, isNext, _, _, _⟩
        · cases closed.symm.trans closedToo
          exact ⟨fun other stored => Except.ok.inj stored, rfl⟩
        · cases closed.symm.trans isNext
      · rcases readItems_eq_ok kept with
          ⟨closed, rfl⟩ | ⟨itemText', value, behind', others, isNextToo, doneToo, laterToo, rfl⟩
        · cases isNext.symm.trans closed
        · cases isNext.symm.trans isNextToo
          obtain ⟨⟨held, rfl, only⟩, rfl⟩ := reads.agree rfl done doneToo
          obtain ⟨more, same⟩ := ih later laterToo
          refine ⟨?_, same⟩
          intro other stored
          simp only [List.map_cons, storeItems] at stored
          split at stored
          · cases stored
          · next next put =>
              obtain ⟨content, decoded, rfl⟩ := except_map_eq_ok_iff.1 put
              rw [← only decoded] at stored
              exact more stored

/-! ## Records by name -/

/-- What is read of a record by name: nothing more, a member that is no field, or a field. -/
theorem readMembers_eq_ok {fields : List (Field σ)} {bound : Nat} {first : Bool}
    {seen : List String} {text rest : List Char} {record final : σ}
    (read : readMembers fields bound first seen record text = .ok (final, rest)) :
    (nextName .kept first text = .ok (.close rest) ∧ final = record) ∨
      ∃ name valueText behind, MemberAhead .kept first text name valueText ∧
        ((fields.find? (fun field => field.name == name) = none ∧
            passOver valueText = .ok ((), behind) ∧
            readMembers fields (bound - 1) false seen record behind = .ok (final, rest)) ∨
          ∃ field next, fields.find? (fun field => field.name == name) = some field ∧
            name ∉ seen ∧ field.read record valueText = .ok (next, behind) ∧
            readMembers fields (bound - 1) false (name :: seen) next behind =
              .ok (final, rest)) := by
  unfold readMembers at read
  split at read
  · cases read
  split at read
  · cases read
  · next closed =>
      cases read
      exact .inl ⟨closed, rfl⟩
  · next nameText isNext =>
      split at read
      · cases read
      · next name afterName named =>
          split at read
          · next unknown =>
              split at read
              · cases read
              · next valueText separated =>
                  split at read
                  · cases read
                  · next behind passed =>
                      exact .inr ⟨name, valueText, behind,
                        ⟨nameText, afterName, isNext, named, separated⟩,
                        .inl ⟨unknown, passed, read⟩⟩
          · next field found =>
              split at read
              · cases read
              · next unseen =>
                  split at read
                  · cases read
                  · next valueText separated =>
                      split at read
                      · cases read
                      · next next behind done =>
                          refine .inr ⟨name, valueText, behind,
                            ⟨nameText, afterName, isNext, named, separated⟩,
                            .inr ⟨field, next, found, ?_, done, read⟩⟩
                          rwa [List.contains_iff_mem] at unseen

/--
What has become of a part once some members were read into a record: names
seen before do not come again; the part is what each member of its name is decoded
as, and without one it is what it was.
-/
structure Entered (part : Part σ) (seen : List String) (start final : σ)
    (members : List (String × Json)) : Prop where
  unseen : ∀ value, (part.name, value) ∈ members → part.name ∉ seen
  given : ∀ value, (part.name, value) ∈ members → OnlyAs part.read (part.get final) value
  unchanged : (∀ value, (part.name, value) ∉ members) → part.get final = part.get start

namespace Entered

variable {part : Part σ} {seen : List String} {start next final : σ} {name : String} {value : Json}
  {members : List (String × Json)}

theorem nil : Entered part seen start start [] where
  unseen := by
    intro value member
    cases member
  given := by
    intro value member
    cases member
  unchanged := fun _ => rfl

/-- A member of another name makes no difference, provided that it leaves the part alone. -/
theorem cons_of_ne {seenNow : List String} (entered : Entered part seenNow next final members)
    (other : part.name ≠ name) (more : seen ⊆ seenNow) (kept : part.get next = part.get start) :
    Entered part seen start final ((name, value) :: members) where
  unseen := by
    intro again member
    rcases List.mem_cons.1 member with same | later
    · exact absurd (congrArg Prod.fst same) other
    · exact fun old => entered.unseen again later (more old)
  given := by
    intro again member
    rcases List.mem_cons.1 member with same | later
    · exact absurd (congrArg Prod.fst same) other
    · exact entered.given again later
  unchanged := by
    intro missing
    rw [entered.unchanged fun again later => missing again (List.mem_cons_of_mem _ later), kept]

/-- The member of the part's own name is the only one of this name. -/
theorem cons_self (entered : Entered part (part.name :: seen) next final members)
    (unseen : part.name ∉ seen) (only : OnlyAs part.read (part.get next) value) :
    Entered part seen start final ((part.name, value) :: members) := by
  have alone : ∀ again, (part.name, again) ∉ members := fun again later =>
    entered.unseen again later List.mem_cons_self
  refine ⟨fun _ _ => unseen, ?_, ?_⟩
  · intro again member
    rcases List.mem_cons.1 member with same | later
    · cases same
      rw [entered.unchanged alone]
      exact only
    · exact absurd later (alone again)
  · intro missing
    exact absurd List.mem_cons_self (missing value)

end Entered

section

variable {remainder : σ → ρ} {fields : List (Field σ)} {parts : List (Part σ)}

theorem exists_part_of_find? (each : List.Forall₂ Field.Reads fields parts) {name : String}
    {field : Field σ} (found : fields.find? (fun field => field.name == name) = some field) :
    ∃ part ∈ parts, field.Reads part ∧ part.name = name := by
  induction each with
  | nil => cases found
  | @cons first part _ _ reads others ih =>
      rw [List.find?_cons] at found
      split at found
      · next named =>
          cases found
          exact ⟨part, List.mem_cons_self, reads, reads.name_eq ▸ beq_iff_eq.1 named⟩
      · obtain ⟨other, member, readsToo, named⟩ := ih found
        exact ⟨other, List.mem_cons_of_mem _ member, readsToo, named⟩

theorem forall_part_of_find? (each : List.Forall₂ Field.Reads fields parts) {name : String}
    (missing : fields.find? (fun field => field.name == name) = none) :
    ∀ part ∈ parts, part.name ≠ name := by
  induction each with
  | nil => exact List.forall_mem_nil _
  | cons reads others ih =>
      rw [List.find?_cons] at missing
      split at missing
      · cases missing
      · next different =>
          refine List.forall_mem_cons.2 ⟨?_, ih missing⟩
          rw [← reads.name_eq]
          exact beq_eq_false_iff_ne.1 different

/-- Members enter a record part by part, and what is no field is passed over to its end. -/
theorem readMembers_agree (lawful : Lawful remainder parts)
    (each : List.Forall₂ Field.Reads fields parts) {levels bound bound' : Nat} {first : Bool}
    {seen : List String} {text rest rest' : List Char} {record final : σ}
    {members : List (String × Json)}
    (streamed : readMembers fields bound first seen record text = .ok (final, rest))
    (kept : Json.readMembers .kept (fun _ => readValue levels) bound' first text =
      .ok (members, rest')) :
    (∀ part ∈ parts, Entered part seen record final members) ∧
      remainder final = remainder record ∧ rest = rest' := by
  induction bound generalizing bound' first seen text record members with
  | zero => cases streamed
  | succ bound ih =>
      rcases readMembers_eq_ok streamed with
        ⟨closed, rfl⟩ | ⟨name, valueText, behind, ahead, step⟩
      · rcases Json.readMembers_eq_ok kept with
          ⟨closedToo, rfl⟩ | ⟨_, _, _, _, _, ahead, _, _, _⟩
        · cases closed.symm.trans closedToo
          exact ⟨fun part member => .nil, rfl, rfl⟩
        · exact absurd closed ahead.not_close
      · rcases Json.readMembers_eq_ok kept with
          ⟨closed, rfl⟩ | ⟨name', valueText', value, behind', others, aheadToo, doneToo, laterToo,
            rfl⟩
        · exact absurd closed ahead.not_close
        · obtain ⟨named, rfl⟩ := ahead.alike aheadToo
          cases named rfl
          rcases step with ⟨missing, passed, later⟩ | ⟨field, next, found, unseen, done, later⟩
          · obtain ⟨-, rfl⟩ := passOver_agrees levels rfl passed doneToo
            obtain ⟨entered, kept, ends⟩ := ih later laterToo
            refine ⟨?_, kept, ends⟩
            intro part member
            exact (entered part member).cons_of_ne (forall_part_of_find? each missing part member)
              (List.Subset.refl seen) rfl
          -- From here on the part's own name is among those seen, so no later member undoes it.
          · obtain ⟨part, member, reads, rfl⟩ := exists_part_of_find? each found
            obtain ⟨⟨held, rfl, only⟩, rfl⟩ := reads.agree rfl done doneToo
            obtain ⟨entered, kept, ends⟩ := ih later laterToo
            refine ⟨?_, kept.trans (lawful.remainder_set part member held record), ends⟩
            intro other otherMember
            by_cases same : other = part
            · subst same
              refine (entered other otherMember).cons_self unseen ?_
              rwa [lawful.get_set other member]
            · have apart := lawful.independent.forall member otherMember (Ne.symm same)
              exact (entered other otherMember).cons_of_ne apart.names_ne.symm
                (List.subset_cons_self _ _) (apart.get_set held record)

/-- What was read into a record by name is what its object is decoded as. -/
theorem Entered.decodes_object (lawful : Lawful remainder parts) {start final : σ}
    {members : List (String × Json)} (entered : ∀ part ∈ parts, Entered part [] start final members)
    (kept : remainder final = remainder start) :
    OnlyAs (fun members => storeMembers (parts.map Part.toField) members start) final
      (NameTable.ofList members) := by
  intro other stored
  -- The object keeps the last member of a name, and there is only one.
  have distinct := distinct_of_ordered (NameTable.ordered_ofList members)
  obtain ⟨given, keptToo⟩ := (lawful.storeMembers_eq_ok_iff distinct).1 stored
  refine lawful.ext final other (kept.trans keptToo.symm) ?_
  intro part member
  have read := given part member
  cases found : NameTable.get? (NameTable.ofList members) part.name with
  | none =>
      rw [found, Part.Given] at read
      rw [read]
      exact (entered part member).unchanged (NameTable.not_mem_of_get?_ofList found)
  | some value =>
      rw [found, Part.Given] at read
      exact (entered part member).given value
        (NameTable.mem_of_mem_ofList (NameTable.mem_of_get? found)) read

/-- A record is read from text like from the value that the text spells. -/
theorem readRecord_agrees (lawful : Lawful remainder parts)
    (each : List.Forall₂ Field.Reads fields parts) (title : String)
    (excess : Nat → Nat → Mismatch) (start : σ) :
    AgreesWith (readRecord title (some fields) start)
      (toRecord title excess (parts.map Part.toField) start) := by
  intro levels text text' content value rest rest' blanks streamed kept
  rw [readRecord] at streamed
  split at streamed
  · next behind ahead =>
      obtain ⟨inner, items, rfl, done⟩ := readValue_of_bracket (blanks ▸ ahead) kept
      obtain ⟨only, ends⟩ := readItems_agree each streamed done
      refine ⟨?_, ends⟩
      intro other decoded
      rw [toRecord] at decoded
      split at decoded
      · cases decoded
      · next record stored =>
          split at decoded
          · cases decoded
          · cases decoded
            exact only stored
  · next behind ahead =>
      obtain ⟨inner, members, rfl, done⟩ := readValue_of_brace (blanks ▸ ahead) kept
      obtain ⟨entered, unchanged, ends⟩ := readMembers_agree lawful each streamed done
      exact ⟨Entered.decodes_object lawful entered unchanged, ends⟩
  · cases streamed

end

/-- A record for which no level is left is not read at all. -/
theorem readRecord_none_ne_ok {title : String} {start : σ} {text : List Char}
    {result : σ × List Char} : readRecord title none start text ≠ .ok result := by
  intro streamed
  rw [readRecord] at streamed
  split at streamed <;> cases streamed

theorem readRecord_none_agrees (title : String) (start : σ) (decode : Json → Except Mismatch σ) :
    AgreesWith (readRecord title none start) decode := by
  intro levels text text' content value rest rest' blanks streamed kept
  exact absurd streamed readRecord_none_ne_ok

/-! ## Tables -/

theorem readTable_none_ne_ok {text : List Char} {result : NameTable α × List Char} :
    readTable none text ≠ .ok result := by
  intro streamed
  rw [readTable] at streamed
  split at streamed <;> cases streamed

theorem readTable_none_agrees (decode : Json → Except Mismatch (NameTable α)) :
    AgreesWith (readTable none) decode := by
  intro levels text text' content value rest rest' blanks streamed kept
  exact absurd streamed readTable_none_ne_ok

/-- Entries that agree one by one are the table that its members are decoded as. -/
theorem onlyAs_readEntries {decode : Json → Except Mismatch α} {table : NameTable α}
    {members : NameTable Json}
    (aligned : NameTable.Aligned (fun _ content value => OnlyAs decode content value) table
      members) :
    OnlyAs (readEntries decode) table members := by
  induction aligned with
  | nil =>
      intro other decoded
      exact Except.ok.inj decoded
  | cons first rest ih =>
      intro other decoded
      obtain ⟨content, others, decodedFirst, decodedRest, rfl⟩ :=
        readEntries_cons_eq_ok_iff.1 decoded
      obtain ⟨named, only⟩ := first
      rw [← only decodedFirst, ← ih decodedRest, ← named]

/-- A table is read from text like from the value that the text spells. -/
theorem readTable_agrees {entry : Reader α} {decode : Json → Except Mismatch α}
    (agree : AgreesWith entry decode) : AgreesWith (readTable (some entry)) (toTable decode) := by
  intro levels text text' content value rest rest' blanks streamed kept
  rw [readTable] at streamed
  split at streamed
  · next behind ahead =>
      obtain ⟨⟨pairs, after⟩, done, same⟩ := except_map_eq_ok_iff.1 streamed
      cases same
      obtain ⟨inner, members, rfl, doneToo⟩ := readValue_of_brace (blanks ▸ ahead) kept
      obtain ⟨entries, ends⟩ := (agree inner).readMembers done doneToo
      refine ⟨onlyAs_readEntries (NameTable.ofList_aligned ?_), ends⟩
      exact entries.imp fun pair pair' both => ⟨both.1 rfl, both.2⟩
  · cases streamed

end Stream

end ApiDiscovery.Json
