import ApiDiscovery.Json.Lexical
import ApiDiscovery.Proofs.Activity

/-!
# What is kept and what is passed over

Strings and numbers that can be kept can be passed over, to the same place: the
careless reading only leaves out checks.  In lists and objects both readings come
to the same parts and the same close.
-/

namespace ApiDiscovery.Json

variable {α : Type}

theorem skipSpace_idem (text : List Char) : skipSpace (skipSpace text) = skipSpace text := by
  induction text with
  | nil => rfl
  | cons c rest ih =>
      rw [skipSpace]
      split
      · exact ih
      · next visible => rw [skipSpace, if_neg visible]

/-- A text that begins with a visible character has nothing to skip. -/
theorem skipSpace_of_eq_cons {text rest : List Char} {c : Char}
    (ahead : skipSpace text = c :: rest) : skipSpace (c :: rest) = c :: rest := by
  rw [← ahead, skipSpace_idem]

/-! ## Strings -/

/-- The standing in a string once nobody keeps track of surrogate pairs. -/
def StringMode.unpaired : StringMode → StringMode
  | .plain => .plain
  | .escape => .escape
  | .unit _ octets value isHexadecimal => .unit none octets value isHexadecimal
  | .paired _ => .plain
  | .pairedEscape _ => .escape

theorem StringMode.unpaired_of_afterUnit {leading : Option Nat} {value unread : Nat}
    {out : Option Char} {next : StringMode}
    (kept : afterUnit .kept leading value unread = .ok (out, next)) : next.unpaired = .plain := by
  cases leading with
  | none =>
      rw [afterUnit] at kept
      split at kept
      · cases kept
      · split at kept <;> cases kept <;> rfl
  | some first =>
      rw [afterUnit] at kept
      split at kept
      · cases kept
        rfl
      · cases kept

/-- A character that is accepted in a string to be kept is accepted in one to be passed over. -/
theorem StringMode.step_ignored {mode next : StringMode} {c : Char} {rest : List Char}
    {out : Option Char} (kept : mode.step .kept c rest = .ok (out, next)) :
    ∃ other, mode.unpaired.step .ignored c rest = .ok (other, next.unpaired) := by
  cases mode with
  | plain =>
      rw [step] at kept
      rw [unpaired, step]
      split at kept
      · cases kept
      · next printable =>
          rw [if_neg printable]
          split at kept
          · next backslash =>
              cases kept
              exact ⟨none, if_pos backslash⟩
          · next other =>
              cases kept
              exact ⟨some c, if_neg other⟩
  | escape =>
      rw [step] at kept
      rw [unpaired, step]
      split at kept
      · next codeUnit =>
          cases kept
          exact ⟨none, if_pos codeUnit⟩
      · next other =>
          rw [if_neg other]
          split at kept
          · cases kept
            exact ⟨_, rfl⟩
          · cases kept
  | unit leading octets value isHexadecimal =>
      rw [step] at kept
      rw [unpaired, step]
      dsimp only at kept ⊢
      split at kept
      · next unfinished =>
          cases kept
          exact ⟨none, if_pos unfinished⟩
      · next finished =>
          rw [if_neg finished]
          split at kept
          · next hexadecimal =>
              rw [if_pos hexadecimal, unpaired_of_afterUnit kept]
              exact ⟨none, rfl⟩
          · cases kept
  -- Between the halves of a pair only a backslash is accepted, which plain text accepts too.
  | paired leading =>
      rw [step] at kept
      split at kept
      · next backslash =>
          cases kept
          subst backslash
          exact ⟨none, rfl⟩
      · cases kept
  | pairedEscape leading =>
      rw [step] at kept
      split at kept
      · next codeUnit =>
          cases kept
          exact ⟨none, if_pos codeUnit⟩
      · cases kept

/-- Where a string to be kept goes on, the one to be passed over does not end. -/
theorem StringMode.open_ignored {mode next : StringMode} {c : Char} {rest : List Char}
    {out : Option Char} (inside : ¬(mode = .plain ∧ c = '"'))
    (kept : mode.step .kept c rest = .ok (out, next)) :
    ¬(mode.unpaired = .plain ∧ c = '"') := by
  rintro ⟨isPlain, rfl⟩
  cases mode with
  | plain => exact inside ⟨rfl, rfl⟩
  | paired leading => cases kept
  | escape => cases isPlain
  | unit leading octets value isHexadecimal => cases isPlain
  | pairedEscape leading => cases isPlain

/-- What is read of a string behind one of its characters. -/
theorem stringFrom_cons_eq_ok {care : Care} {mode : StringMode} {c : Char} {text rest : List Char}
    {content : List Char} (inside : ¬(mode = .plain ∧ c = '"'))
    (read : stringFrom care mode (c :: text) = .ok (content, rest)) :
    ∃ out next more, mode.step care c text = .ok (out, next) ∧
      stringFrom care next text = .ok (more, rest) := by
  rw [stringFrom, if_neg inside] at read
  split at read
  · cases read
  · next next stepped => exact ⟨_, next, content, stepped, read⟩
  · next meant next stepped =>
      split at read
      · cases read
      · next more after behind =>
          cases read
          exact ⟨_, next, more, stepped, behind⟩

theorem stringFrom_ignored {mode : StringMode} {text rest content : List Char}
    (kept : stringFrom .kept mode text = .ok (content, rest)) :
    ∃ other, stringFrom .ignored mode.unpaired text = .ok (other, rest) := by
  induction text generalizing mode content with
  | nil => cases kept
  | cons c text ih =>
      by_cases ends : mode = .plain ∧ c = '"'
      · rw [stringFrom, if_pos ends] at kept
        obtain ⟨rfl, rfl⟩ := ends
        cases kept
        exact ⟨_, rfl⟩
      · obtain ⟨out, next, more, stepped, behind⟩ := stringFrom_cons_eq_ok ends kept
        obtain ⟨other, steppedToo⟩ := StringMode.step_ignored stepped
        obtain ⟨others, behindToo⟩ := ih behind
        rw [stringFrom, if_neg (StringMode.open_ignored ends stepped), steppedToo]
        cases other with
        | none => exact ⟨others, behindToo⟩
        | some meant =>
            dsimp only
            rw [behindToo]
            exact ⟨_, rfl⟩

/-- A string that can be kept can be passed over. -/
theorem readString_ignored {text rest : List Char} {content : String}
    (kept : readString .kept text = .ok (content, rest)) :
    ∃ other, readString .ignored text = .ok (other, rest) := by
  obtain ⟨⟨letters, after⟩, read, same⟩ := except_map_eq_ok_iff.1 kept
  cases same
  obtain ⟨other, readToo⟩ := stringFrom_ignored read
  exact ⟨String.ofList other, except_map_eq_ok_iff.2 ⟨_, readToo, rfl⟩⟩

/-! ## Numbers -/

/-- Collecting digits before skipping them neither loses nor adds one. -/
theorem skipDigits_collect (limit value count : Nat) (text : List Char) :
    (collect limit value count text).2.1 + (skipDigits (collect limit value count text).2.2).1 =
        count + (skipDigits text).1 ∧
      (skipDigits (collect limit value count text).2.2).2 = (skipDigits text).2 := by
  induction text generalizing value count with
  | nil => exact ⟨rfl, rfl⟩
  | cons c text ih =>
      rw [collect]
      split
      · next isDigit =>
          dsimp only
          split
          · obtain ⟨counted, after⟩ := ih (value * 10 + digitValue c) (count + 1)
            rw [skipDigits, if_pos isDigit]
            exact ⟨by rw [counted]; omega, after⟩
          · exact ⟨rfl, rfl⟩
      · exact ⟨rfl, rfl⟩

theorem rest_of_floating {negative : Bool} {significand : Nat} {exponent : Int}
    {text rest : List Char} {value : Number}
    (read : floating negative significand exponent text = .ok (value, rest)) : rest = text := by
  rw [floating] at read
  split at read <;> cases read
  rfl

def unsigned (text : List Char) : List Char :=
  match text with
  | '+' :: rest => rest
  | '-' :: rest => rest
  | _ => text

theorem skipExponent_eq_ok {text : List Char} (some : (skipDigits (unsigned text)).1 ≠ 0) :
    skipExponent text = .ok (skipDigits (unsigned text)).2 := if_neg some

theorem skipDigits_of_not_isDigit {c : Char} {rest : List Char} (other : ¬c.isDigit) :
    skipDigits (c :: rest) = (0, c :: rest) := by
  rw [skipDigits, if_neg other]

/-- An exponent is read to the end of its digits. -/
theorem skipExponent_of_exponentPart {negative : Bool} {significand : Nat} {already : Int}
    {text rest : List Char} {value : Number}
    (read : exponentPart negative significand already text = .ok (value, rest)) :
    skipExponent text = .ok rest := by
  unfold exponentPart at read
  split at read
  next isNegative digits signed =>
    have same : unsigned text = digits := by
      split at signed
      · cases signed
        rfl
      · cases signed
        rfl
      · next noPlus noMinus =>
          cases signed
          rw [unsigned]
          · exact noPlus
          · exact noMinus
    split at read
    · cases read
    · next c others =>
        split at read
        · next isDigit =>
            obtain ⟨-, behind⟩ := skipDigits_collect exponentLimit 0 0 (c :: others)
            have counted : (skipDigits (unsigned text)).1 ≠ 0 := by
              rw [same, skipDigits, if_pos isDigit]
              exact Nat.succ_ne_zero _
            rw [skipExponent_eq_ok counted, same, ← behind]
            split at read
            next exponent count after collected =>
              rw [collected]
              split at read
              · next d beyond =>
                  split at read
                  · next more =>
                      split at read
                      · cases read
                      · cases read
                        rw [skipDigits, if_pos more]
                  · next other =>
                      rw [rest_of_floating read, skipDigits_of_not_isDigit other]
              · rw [rest_of_floating read]
                rfl
        · cases read

def skipAfterDigits (text : List Char) : Except Fault (List Char) :=
  match text with
  | 'e' :: exponent => skipExponent exponent
  | 'E' :: exponent => skipExponent exponent
  | _ => .ok text

theorem skipAfterDigits_of_afterDigits {negative : Bool} {significand : Nat} {exponent : Int}
    {text rest : List Char} {value : Number}
    (read : afterDigits negative significand exponent text = .ok (value, rest)) :
    skipAfterDigits text = .ok rest := by
  unfold afterDigits at read
  split at read
  · exact skipExponent_of_exponentPart read
  · exact skipExponent_of_exponentPart read
  · next noExponent noExponentToo =>
      rw [skipAfterDigits, rest_of_floating read]
      · exact noExponent
      · exact noExponentToo

theorem skipAfterWhole_fraction {fraction : List Char} (some : (skipDigits fraction).1 ≠ 0) :
    skipAfterWhole ('.' :: fraction) = skipAfterDigits (skipDigits fraction).2 := if_neg some

theorem skipAfterWhole_of_fractionPart {negative : Bool} {significand : Nat} {exponent : Int}
    {fraction rest : List Char} {value : Number}
    (read : fractionPart negative significand exponent fraction = .ok (value, rest)) :
    skipAfterWhole ('.' :: fraction) = .ok rest := by
  obtain ⟨counted, behind⟩ := skipDigits_collect significandLimit significand 0 fraction
  rw [Nat.zero_add] at counted
  unfold fractionPart at read
  split at read
  next longer count after collected =>
    rw [collected] at counted behind
    split at read
    next dropped others skipped =>
      rw [skipped] at counted behind
      split at read
      · split at read <;> cases read
      · next some =>
          rw [counted] at some
          rw [skipAfterWhole_fraction some, ← behind]
          exact skipAfterDigits_of_afterDigits read

/-- What follows the integer digits of a number that can be kept can be passed over. -/
theorem skipAfterWhole_of_afterWhole {negative : Bool} {significand : Nat}
    {text rest : List Char} {value : Number}
    (read : afterWhole negative significand text = .ok (value, rest)) :
    skipAfterWhole (skipDigits text).2 = .ok rest := by
  unfold afterWhole at read
  split at read
  next dropped others skipped =>
    rw [skipped]
    split at read
    · exact skipAfterWhole_of_fractionPart read
    · exact skipExponent_of_exponentPart read
    · exact skipExponent_of_exponentPart read
    · next noFraction noExponent noExponentToo =>
        have ends : rest = others := by
          split at read
          · cases read
            rfl
          · exact rest_of_floating read
        rw [skipAfterWhole, ends]
        · exact noFraction
        · exact noExponent
        · exact noExponentToo

/-- A number that can be kept can be passed over. -/
theorem skipNumber_of_readNumber {negative : Bool} {text rest : List Char} {value : Number}
    (read : readNumber negative text = .ok (value, rest)) : skipNumber text = .ok rest := by
  cases text with
  | nil => cases read
  | cons c others =>
      unfold readNumber at read
      unfold skipNumber
      dsimp only at read ⊢
      split at read
      · next zero =>
          rw [if_pos zero]
          cases others with
          | nil => exact skipAfterWhole_of_afterWhole read
          | cons d more =>
              dsimp only at read ⊢
              split at read
              · cases read
              · next other =>
                  have behind := skipAfterWhole_of_afterWhole read
                  rw [skipDigits_of_not_isDigit other] at behind
                  rw [if_neg other]
                  exact behind
      · next notZero =>
          rw [if_neg notZero]
          split at read
          · next isDigit =>
              obtain ⟨-, behind⟩ := skipDigits_collect significandLimit 0 0 (c :: others)
              rw [skipDigits, if_pos isDigit] at behind
              rw [if_pos isDigit, ← behind]
              exact skipAfterWhole_of_afterWhole read
          · cases read

/-! ## Lists and objects -/

/-- The same close, or parts that differ in leading blanks only. -/
inductive Next.Alike : Next → Next → Prop where
  | part {text text' : List Char} (blanks : skipSpace text = skipSpace text') :
      Alike (.part text) (.part text')
  | close (rest : List Char) : Alike (.close rest) (.close rest)

theorem Next.Alike.refl (next : Next) : next.Alike next := by
  cases next with
  | part text => exact .part rfl
  | close rest => exact .close rest

/-- Where a list to be kept goes on or ends, so does one to be passed over. -/
theorem nextItem_ignored {first : Bool} {text : List Char} {next : Next}
    (kept : nextItem .kept first text = .ok next) :
    ∃ other, nextItem .ignored first text = .ok other ∧ other.Alike next := by
  rw [nextItem] at kept
  rw [nextItem]
  cases ahead : skipSpace text with
  | nil =>
      rw [ahead] at kept
      cases kept
  | cons c rest =>
      rw [ahead] at kept
      dsimp only at kept ⊢
      split at kept
      · next closes =>
          rw [if_pos closes]
          exact ⟨next, kept, .refl next⟩
      · next inside =>
          rw [if_neg inside]
          split at kept
          · next isFirst =>
              rw [if_pos isFirst]
              exact ⟨next, kept, .refl next⟩
          · next later =>
              rw [if_neg later]
              split at kept
              · next comma =>
                  rw [if_pos comma]
                  split at kept
                  · cases kept
                  · next d more ahead =>
                      split at kept
                      · cases kept
                      · cases kept
                        refine ⟨.part rest, rfl, .part ?_⟩
                        rw [skipSpace_of_eq_cons ahead, ahead]
              · cases kept

theorem nextItem_alike {care : Care} {first : Bool} {text : List Char} {next next' : Next}
    (read : nextItem care first text = .ok next)
    (kept : nextItem .kept first text = .ok next') : next.Alike next' := by
  cases care with
  | kept =>
      cases read.symm.trans kept
      exact .refl next
  | ignored =>
      obtain ⟨other, readToo, alike⟩ := nextItem_ignored kept
      cases read.symm.trans readToo
      exact alike

/-- Where an object to be kept goes on or ends, so does one to be passed over. -/
theorem nextName_ignored {first : Bool} {text : List Char} {next : Next}
    (kept : nextName .kept first text = .ok next) : nextName .ignored first text = .ok next := by
  rw [nextName] at kept
  rw [nextName]
  cases ahead : skipSpace text with
  | nil =>
      rw [ahead] at kept
      cases kept
  | cons c rest =>
      rw [ahead] at kept
      dsimp only at kept ⊢
      split at kept
      · next closes =>
          rw [if_pos closes]
          exact kept
      · next inside =>
          rw [if_neg inside]
          split at kept
          · next isFirst =>
              rw [if_pos isFirst]
              exact kept
          · next later =>
              rw [if_neg later]
              split at kept
              · next comma =>
                  rw [if_pos comma]
                  split at kept
                  · cases kept
                  · split at kept
                    · next opens =>
                        rw [if_pos opens]
                        exact kept
                    · split at kept <;> cases kept
              · cases kept

/-- The next member has this name, and this is the text of its value. -/
def MemberAhead (care : Care) (first : Bool) (text : List Char) (name : String)
    (valueText : List Char) : Prop :=
  ∃ nameText afterName, nextName care first text = .ok (.part nameText) ∧
    readString care nameText = .ok (name, afterName) ∧ colon afterName = .ok valueText

theorem nextName_eq {care : Care} {first : Bool} {text : List Char} {next next' : Next}
    (read : nextName care first text = .ok next)
    (kept : nextName .kept first text = .ok next') : next = next' := by
  cases care with
  | kept => exact Except.ok.inj (read.symm.trans kept)
  | ignored => exact Except.ok.inj (read.symm.trans (nextName_ignored kept))

/-- Only of a name that is kept it is known what it is. -/
theorem MemberAhead.alike {care : Care} {first : Bool} {text valueText valueText' : List Char}
    {name name' : String} (ahead : MemberAhead care first text name valueText)
    (kept : MemberAhead .kept first text name' valueText') :
    (care = .kept → name = name') ∧ valueText = valueText' := by
  obtain ⟨nameText, afterName, isNext, read, separated⟩ := ahead
  obtain ⟨nameText', afterName', isNextToo, readToo, separatedToo⟩ := kept
  cases nextName_eq isNext isNextToo
  cases care with
  | kept =>
      cases read.symm.trans readToo
      exact ⟨fun _ => rfl, Except.ok.inj (separated.symm.trans separatedToo)⟩
  | ignored =>
      obtain ⟨other, readIgnored⟩ := readString_ignored readToo
      cases read.symm.trans readIgnored
      exact ⟨nofun, Except.ok.inj (separated.symm.trans separatedToo)⟩

/-- Where an object to be kept has another member, no reading of it ends. -/
theorem MemberAhead.not_close {care : Care} {first : Bool} {text valueText rest : List Char}
    {name : String} (ahead : MemberAhead .kept first text name valueText) :
    nextName care first text ≠ .ok (.close rest) := by
  obtain ⟨nameText, afterName, isNext, -, -⟩ := ahead
  intro closed
  cases nextName_eq closed isNext

/-- Where an object to be kept ends, no reading of it has another member. -/
theorem MemberAhead.not_of_close {care : Care} {first : Bool} {text valueText rest : List Char}
    {name : String} (closed : nextName .kept first text = .ok (.close rest)) :
    ¬MemberAhead care first text name valueText := by
  rintro ⟨nameText, afterName, isNext, -, -⟩
  cases nextName_eq isNext closed

/-- What is read of a list: nothing behind its last item, or an item and what is behind it. -/
theorem readItems_eq_ok {care : Care} {item : Reader α} {bound : Nat} {first : Bool}
    {text rest : List Char} {values : List α}
    (read : readItems care item bound first text = .ok (values, rest)) :
    (nextItem care first text = .ok (.close rest) ∧ values = []) ∨
      ∃ itemText value behind others, nextItem care first text = .ok (.part itemText) ∧
        item itemText = .ok (value, behind) ∧
        readItems care item (bound - 1) false behind = .ok (others, rest) ∧
        values = value :: others := by
  unfold readItems at read
  split at read
  · cases read
  split at read
  · cases read
  · next closed =>
      cases read
      exact .inl ⟨closed, rfl⟩
  · next itemText isNext =>
      split at read
      · cases read
      · next value behind done =>
          split at read
          · cases read
          · next others last later =>
              cases read
              exact .inr ⟨itemText, value, behind, others, isNext, done, later, rfl⟩

/-- What is read of an object: nothing behind its last member, or a member and what is behind it. -/
theorem readMembers_eq_ok {care : Care} {value : String → Reader α} {bound : Nat} {first : Bool}
    {text rest : List Char} {members : List (String × α)}
    (read : readMembers care value bound first text = .ok (members, rest)) :
    (nextName care first text = .ok (.close rest) ∧ members = []) ∨
      ∃ name valueText content behind others, MemberAhead care first text name valueText ∧
        value name valueText = .ok (content, behind) ∧
        readMembers care value (bound - 1) false behind = .ok (others, rest) ∧
        members = (name, content) :: others := by
  unfold readMembers at read
  split at read
  · cases read
  split at read
  · cases read
  · next closed =>
      cases read
      exact .inl ⟨closed, rfl⟩
  · next nameText isNext =>
      split at read
      · cases read
      · next name afterName named =>
          split at read
          · cases read
          · next valueText separated =>
              split at read
              · cases read
              · next content behind done =>
                  split at read
                  · cases read
                  · next others last later =>
                      cases read
                      exact .inr ⟨name, valueText, content, behind, others,
                        ⟨nameText, afterName, isNext, named, separated⟩, done, later, rfl⟩

end ApiDiscovery.Json
