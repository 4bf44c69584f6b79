import ApiDiscovery.Proofs.Method.Filling
import ApiDiscovery.Proofs.Url.Dots

/-!
# Segments of a path

A path cut at the slashes of its template: each segment has a form with the
values in it and a form with the placeholders.  Encoded values hold no slash, so
no segment is parted, but dots need no encoding: a segment into which values go
becomes a dot segment exactly if it reads so with the values as they are given.
Only then does resolving the dots of the path take away what it leaves of the
template.
-/

namespace ApiDiscovery

/-- A part of a path: a character of the template, or a placeholder with the value in its place. -/
inductive PathPart where
  | literal (c : Char)
  | filled (name : String) (value : List Char)
deriving DecidableEq, Repr

namespace PathPart

/-- The part as text, a filled placeholder being read in a given way. -/
def read (reading : String → List Char → List Char) : PathPart → List Char
  | literal c => [c]
  | filled name value => reading name value

def isSlash : PathPart → Bool
  | literal c => c == '/'
  | filled _ _ => false

variable (reading : String → List Char → List Char)

theorem flatMap_literal (text : List Char) : (text.map literal).flatMap (read reading) = text := by
  induction text with
  | nil => rfl
  | cons c text ih => rw [List.map_cons, List.flatMap_cons, ih, read, List.singleton_append]

end PathPart

abbrev Segment := List PathPart

namespace Segment

def read (reading : String → List Char → List Char) (segment : Segment) : List Char :=
  segment.flatMap (PathPart.read reading)

/-- The segment as it stands in the path. -/
def text (segment : Segment) : List Char := segment.read fun _ value => value

/-- The segment as it stands in the template. -/
def written (segment : Segment) : List Char := segment.read fun name _ => ApiMethod.placeholder name

/-- The segment with its values as they were given. -/
def plain (segment : Segment) : List Char :=
  segment.read fun _ value => (Text.Percent.decode value).getD value

def HoldsValue (segment : Segment) : Prop := ∃ name value, PathPart.filled name value ∈ segment

def Encoded (segment : Segment) : Prop :=
  ∀ name value, PathPart.filled name value ∈ segment → ∃ given, value = Text.Percent.encode given

end Segment

/-! ## Cutting at slashes -/

section

variable {α : Type} {p : α → Bool}

theorem of_mem_splitOnP {items segment : List α} (member : segment ∈ items.splitOnP p) {item : α}
    (inside : item ∈ segment) : item ∈ items ∧ p item = false := by
  induction items generalizing segment with
  | nil =>
      rw [List.splitOnP_nil, List.mem_singleton] at member
      rw [member] at inside
      cases inside
  | cons first items ih =>
      rw [List.splitOnP_cons_eq_if_modifyHead] at member
      split at member
      · rcases List.mem_cons.1 member with rfl | later
        · cases inside
        · exact (ih later inside).imp_left (List.mem_cons_of_mem _)
      · next different =>
          obtain ⟨head, others, cut⟩ := List.exists_cons_of_ne_nil (List.splitOnP_ne_nil p items)
          rw [cut] at ih member
          rcases List.mem_cons.1 member with rfl | later
          · rcases List.mem_cons.1 inside with rfl | behind
            · exact ⟨List.mem_cons_self, Bool.eq_false_iff.2 different⟩
            · exact (ih List.mem_cons_self behind).imp_left (List.mem_cons_of_mem _)
          · exact (ih (List.mem_cons_of_mem _ later) inside).imp_left (List.mem_cons_of_mem _)

variable (reading : String → List Char → List Char)

/-- In whatever way they are read, the segments with slashes between are the parts. -/
theorem intercalate_segments (parts : List PathPart) :
    List.intercalate ['/'] ((parts.splitOnP PathPart.isSlash).map (Segment.read reading)) =
      parts.flatMap (PathPart.read reading) := by
  induction parts with
  | nil => rfl
  | cons part parts ih =>
      obtain ⟨head, others, cut⟩ :=
        List.exists_cons_of_ne_nil (List.splitOnP_ne_nil PathPart.isSlash parts)
      rw [List.splitOnP_cons_eq_if_modifyHead, List.flatMap_cons, ← ih, cut]
      split
      · next slash =>
          cases part with
          | filled name value => cases slash
          | literal c =>
              rw [PathPart.isSlash, beq_iff_eq] at slash
              rw [slash]
              rfl
      · cases others with
        | nil => simp [Segment.read]
        | cons next others => simp [Segment.read, List.intercalate_cons_cons]

/-- A reading of values without a slash gives the pieces between the slashes. -/
theorem splitAll_segments {parts : List PathPart}
    (free : ∀ name value, PathPart.filled name value ∈ parts → '/' ∉ reading name value) :
    Text.splitAll '/' (parts.flatMap (PathPart.read reading)) =
      (parts.splitOnP PathPart.isSlash).map (Segment.read reading) := by
  rw [← intercalate_segments]
  refine Text.splitAll_intercalate ?_ ?_
  · simp
  · rw [List.forall_mem_map]
    intro segment member slash
    obtain ⟨part, inside, found⟩ := List.mem_flatMap.1 slash
    obtain ⟨given, other⟩ := of_mem_splitOnP member inside
    cases part with
    | filled name value => exact free name value given found
    | literal c =>
        rw [PathPart.isSlash, ← List.mem_singleton.1 found] at other
        cases other

end

/-! ## Dots -/

def IsDots (text : List Char) : Prop := text = ['.'] ∨ text = ['.', '.']

instance (text : List Char) : Decidable (IsDots text) := inferInstanceAs (Decidable (_ ∨ _))

theorem IsDots.eq_dot {text : List Char} (dots : IsDots text) : ∀ c ∈ text, c = '.' := by
  rcases dots with rfl | rfl <;> simp

/-- Dots are their own encoding, and nothing else is encoded as dots. -/
theorem encode_of_dots {given : List Char}
    (dots : (∀ c ∈ Text.Percent.encode given, c = '.') ∨ ∀ c ∈ given, c = '.') :
    Text.Percent.encode given = given := by
  rcases dots with dots | dots
  · exact Text.Percent.encode_of_not_mem fun percent => absurd (dots '%' percent) (by decide)
  · refine Text.Percent.encode_of_isUnreserved fun c member => ?_
    rw [dots c member]
    decide

namespace Segment

variable {segment : Segment}

theorem text_eq_plain (encoded : segment.Encoded)
    (dots : (∀ c ∈ segment.text, c = '.') ∨ ∀ c ∈ segment.plain, c = '.') :
    segment.text = segment.plain := by
  refine List.flatMap_congr fun part member => ?_
  cases part with
  | literal c => rfl
  | filled name value =>
      obtain ⟨given, rfl⟩ := encoded name value member
      simp only [PathPart.read, Text.Percent.decode_encode, Option.getD_some]
      refine encode_of_dots (dots.imp ?_ ?_)
      · exact fun all c inside => all c (List.mem_flatMap.2 ⟨_, member, inside⟩)
      · intro all c inside
        refine all c (List.mem_flatMap.2 ⟨_, member, ?_⟩)
        rwa [PathPart.read, Text.Percent.decode_encode]

/-- Encoding neither makes dots nor hides them. -/
theorem isDots_text_iff (encoded : segment.Encoded) :
    IsDots segment.text ↔ IsDots segment.plain := by
  constructor
  · intro dots
    rwa [← text_eq_plain encoded (.inl dots.eq_dot)]
  · intro dots
    rwa [text_eq_plain encoded (.inr dots.eq_dot)]

theorem brace_mem_written (holds : segment.HoldsValue) : '\x7b' ∈ segment.written := by
  obtain ⟨name, value, member⟩ := holds
  exact List.mem_flatMap.2 ⟨_, member, List.mem_cons_self⟩

theorem not_isDots_written (holds : segment.HoldsValue) : ¬ IsDots segment.written := fun dots =>
  absurd (dots.eq_dot _ (brace_mem_written holds)) (by decide)

theorem text_eq_written (empty : ¬ segment.HoldsValue) : segment.text = segment.written := by
  refine List.flatMap_congr fun part member => ?_
  cases part with
  | literal c => rfl
  | filled name value => exact absurd ⟨name, value, member⟩ empty

theorem octets_text (encoded : segment.Encoded) (plainLiterals : PathPart.literal '%' ∉ segment) :
    Text.Percent.octets segment.text = Text.Utf8.encode segment.plain := by
  induction segment with
  | nil => rfl
  | cons part segment ih =>
      have behind := ih (fun name value member => encoded name value (List.mem_cons_of_mem _ member))
        (List.not_mem_of_not_mem_cons plainLiterals)
      rw [text, plain, read, read, Text.Utf8.encode] at behind ⊢
      rw [List.flatMap_cons, List.flatMap_cons, List.flatMap_append, ← behind]
      cases part with
      | literal c =>
          have other : c ≠ '%' := fun same => plainLiterals (same ▸ List.mem_cons_self)
          simp only [PathPart.read, List.singleton_append, List.flatMap_singleton]
          rw [Text.Percent.octets_cons_of_ne other]
      | filled name value =>
          obtain ⟨given, rfl⟩ := encoded name value List.mem_cons_self
          simp only [PathPart.read, Text.Percent.decode_encode, Option.getD_some]
          rw [Text.Percent.octets_encode_append, Text.Utf8.encode]

theorem isDots_plain_of_octets {octets : List UInt8} {dots : List Char}
    (spelled : Text.Utf8.encode segment.plain = octets) (read : Text.Utf8.decode octets = some dots) :
    segment.plain = dots := by
  rw [← spelled, Text.Utf8.decode_encode] at read
  exact Option.some.inj read

/-- Between literals without a percent sign the segment is one of dots only if it reads so. -/
theorem isDotSegment_text_iff (encoded : segment.Encoded)
    (plainLiterals : PathPart.literal '%' ∉ segment) :
    Url.IsDotSegment segment.text ↔ IsDots segment.plain := by
  have spelled := octets_text encoded plainLiterals
  constructor
  · rintro (here | up)
    · rw [Url.octets_of_isHere here] at spelled
      exact .inl (isDots_plain_of_octets spelled.symm rfl)
    · rw [Url.octets_of_isUp up] at spelled
      exact .inr (isDots_plain_of_octets spelled.symm rfl)
  · intro dots
    rcases (isDots_text_iff encoded).2 dots with one | two
    · rw [one]
      decide
    · rw [two]
      decide

/-- A segment into which a value goes is not one of dots in the template. -/
theorem not_isDotSegment_written (holds : segment.HoldsValue) :
    ¬ Url.IsDotSegment segment.written := fun dots =>
  absurd (Url.toLower_mem_of_isDotSegment dots (brace_mem_written holds)) (by decide)

end Segment

/-! ## The segments of a template -/

namespace Slot

def cleared (slot : Slot) : Slot := { slot with value := none }

/-- The parts of a slot: an empty placeholder is literal text. -/
def parts (slot : Slot) : List PathPart :=
  (match slot.value with
    | none => (ApiMethod.placeholder slot.name).map .literal
    | some value => [.filled slot.name value]) ++ slot.behind.map .literal

theorem text_parts (slot : Slot) :
    slot.parts.flatMap (PathPart.read fun _ value => value) = slot.text := by
  rw [parts, text, List.flatMap_append, PathPart.flatMap_literal]
  cases slot.value with
  | none => rw [PathPart.flatMap_literal, Option.getD_none]
  | some value => simp [PathPart.read]

theorem written_parts (slot : Slot) :
    slot.parts.flatMap (PathPart.read fun name _ => ApiMethod.placeholder name) =
      slot.cleared.text := by
  rw [parts, text, cleared, List.flatMap_append, PathPart.flatMap_literal, Option.getD_none]
  cases slot.value with
  | none => rw [PathPart.flatMap_literal]
  | some value => simp [PathPart.read]

theorem eq_of_mem_parts {slot : Slot} {name : String} {value : List Char}
    (member : .filled name value ∈ slot.parts) : slot.name = name ∧ slot.value = some value := by
  rw [parts] at member
  cases held : slot.value with
  | none => simp [held] at member
  | some old =>
      rw [held] at member
      simp only [List.mem_append, List.mem_singleton, PathPart.filled.injEq, List.mem_map,
        reduceCtorEq, and_false, exists_false, or_false] at member
      exact ⟨member.1.symm, by rw [member.2]⟩

theorem cleared_put (name : String) (value : List Char) (slots : List Slot) :
    (put name value slots).map cleared = slots.map cleared := by
  induction slots with
  | nil => rfl
  | cons slot slots ih =>
      rw [put_cons]
      split
      · rfl
      · rw [List.map_cons, List.map_cons, ih]

theorem mem_put {name : String} {value : List Char} {slots : List Slot} {slot : Slot}
    (member : slot ∈ put name value slots) :
    slot ∈ slots ∨ slot.name = name ∧ slot.value = some value := by
  induction slots with
  | nil => cases member
  | cons first slots ih =>
      rw [put_cons] at member
      split at member
      · next fits =>
          rcases List.mem_cons.1 member with rfl | behind
          · exact .inr ⟨fits.1, rfl⟩
          · exact .inl (List.mem_cons_of_mem _ behind)
      · rcases List.mem_cons.1 member with rfl | behind
        · exact .inl List.mem_cons_self
        · exact (ih behind).imp_left (List.mem_cons_of_mem _)

end Slot

namespace PathTemplate

variable {template filled : PathTemplate} {arguments : List (String × Json)}

def cleared (template : PathTemplate) : PathTemplate :=
  { template with slots := template.slots.map Slot.cleared }

def parts (template : PathTemplate) : List PathPart :=
  template.opening.map .literal ++ template.slots.flatMap Slot.parts

/-- The segments of a template, cut at the slashes outside its values. -/
def segments (template : PathTemplate) : List Segment :=
  template.parts.splitOnP PathPart.isSlash

theorem text_parts (template : PathTemplate) :
    template.parts.flatMap (PathPart.read fun _ value => value) = template.text := by
  rw [parts, text, Slot.textOfAll, List.flatMap_append, PathPart.flatMap_literal,
    List.flatMap_assoc]
  simp only [Slot.text_parts]

theorem written_parts (template : PathTemplate) :
    template.parts.flatMap (PathPart.read fun name _ => ApiMethod.placeholder name) =
      template.cleared.text := by
  rw [parts, text, cleared, Slot.textOfAll, List.flatMap_append, PathPart.flatMap_literal,
    List.flatMap_assoc, List.flatMap_map]
  simp only [Slot.written_parts]

theorem exists_of_mem_parts {name : String} {value : List Char}
    (member : .filled name value ∈ template.parts) :
    ∃ slot ∈ template.slots, slot.name = name ∧ slot.value = some value := by
  rw [parts, List.mem_append, List.mem_flatMap] at member
  rcases member with literal | ⟨slot, given, inside⟩
  · obtain ⟨_, _, other⟩ := List.mem_map.1 literal
    cases other
  · exact ⟨slot, given, Slot.eq_of_mem_parts inside⟩

/-- One template is another with values of some arguments in placeholders of their names. -/
structure FilledFrom (template : PathTemplate) (arguments : List (String × Json))
    (filled : PathTemplate) : Prop where
  cleared_eq : filled.cleared = template.cleared
  values : ∀ slot ∈ filled.slots, ∀ value ∈ slot.value, ∃ argument,
    (slot.name, argument) ∈ arguments ∧
      value = Text.Percent.encode (ApiMethod.argumentText argument)

theorem FilledFrom.names_eq (filledFrom : template.FilledFrom arguments filled) :
    filled.names = template.names := by
  have names_cleared (template : PathTemplate) : template.cleared.names = template.names := by
    rw [names, cleared, List.map_map]
    rfl
  rw [← names_cleared filled, filledFrom.cleared_eq, names_cleared]

theorem FilledFrom.put (filledFrom : template.FilledFrom arguments filled) {name : String}
    {argument : Json} (given : (name, argument) ∈ arguments) :
    template.FilledFrom arguments
      (filled.put name (Text.Percent.encode (ApiMethod.argumentText argument))) where
  cleared_eq := by
    rw [← filledFrom.cleared_eq, cleared, cleared, PathTemplate.put, Slot.cleared_put]
  values := by
    intro slot member value held
    rcases Slot.mem_put member with old | ⟨rfl, new⟩
    · exact filledFrom.values slot old value held
    · rw [new] at held
      cases held
      exact ⟨argument, given, rfl⟩

end PathTemplate

theorem Assembly.filledFrom_giveAll {template : PathTemplate} {arguments given : List (String × Json)}
    {assembly : Assembly} (filledFrom : template.FilledFrom arguments assembly.template)
    (known : given ⊆ arguments) :
    template.FilledFrom arguments (assembly.giveAll given).template := by
  induction given generalizing assembly with
  | nil => exact filledFrom
  | cons pair given ih =>
      obtain ⟨first, others⟩ := List.cons_subset.1 known
      have next : template.FilledFrom arguments (assembly.give pair.1 pair.2).template := by
        rw [template_give]
        exact filledFrom.put first
      exact ih next others

/-! ## Calls -/

theorem PathTemplate.Documents.cleared_eq {template : PathTemplate} {path : List Char}
    (documented : template.Documents path) : template.cleared = template := by
  have same : template.slots.map Slot.cleared = template.slots.map id := by
    refine List.map_congr_left fun slot member => ?_
    rw [Slot.cleared, ← documented.unfilled slot member]
    rfl
  rw [cleared, same, List.map_id]

theorem PathTemplate.Documents.filledFrom {template : PathTemplate} {path : List Char}
    (documented : template.Documents path) (apiKey : Option String)
    (arguments : List (String × Json)) :
    template.FilledFrom arguments
      ((Assembly.start template apiKey).giveAll arguments).template := by
  refine Assembly.filledFrom_giveAll ⟨rfl, ?_⟩ (List.Subset.refl arguments)
  intro slot member value held
  have empty : slot.value = none := documented.unfilled slot member
  rw [empty] at held
  cases held

namespace ApiMethod

/-- The segments of the path of a call, cut at the slashes of its template. -/
def segments (method : ApiMethod) (template : PathTemplate) (arguments : List (String × Json)) :
    List Segment :=
  ((Assembly.start template method.binding.apiKey).giveAll arguments).template.segments

variable {method : ApiMethod} {template : PathTemplate} {arguments : List (String × Json)}
  {segment : Segment}

/-- A value in a segment is that of an argument of its name. -/
theorem exists_argument_of_mem (documented : template.Documents method.path.toList)
    (member : segment ∈ method.segments template arguments) {name : String} {value : List Char}
    (inside : .filled name value ∈ segment) :
    ∃ argument, (name, argument) ∈ arguments ∧
      value = Text.Percent.encode (argumentText argument) := by
  obtain ⟨slot, given, rfl, held⟩ :=
    PathTemplate.exists_of_mem_parts (of_mem_splitOnP member inside).1
  exact (documented.filledFrom method.binding.apiKey arguments).values slot given value held

theorem encoded_of_mem (documented : template.Documents method.path.toList)
    (member : segment ∈ method.segments template arguments) : segment.Encoded := by
  intro name value inside
  obtain ⟨argument, _, same⟩ := exists_argument_of_mem documented member inside
  exact ⟨_, same⟩

theorem written_parts_of_call (documented : template.Documents method.path.toList)
    (arguments : List (String × Json)) :
    ((Assembly.start template method.binding.apiKey).giveAll arguments).template.parts.flatMap
      (PathPart.read fun name _ => placeholder name) = method.path.toList := by
  rw [PathTemplate.written_parts,
    (documented.filledFrom method.binding.apiKey arguments).cleared_eq, documented.cleared_eq,
    documented.text_eq]

theorem written_segments (documented : template.Documents method.path.toList)
    (arguments : List (String × Json)) :
    List.intercalate ['/'] ((method.segments template arguments).map Segment.written) =
      method.path.toList :=
  (intercalate_segments _ _).trans (written_parts_of_call documented arguments)

theorem text_segments (documented : template.Documents method.path.toList)
    (namesFree : ∀ pair ∈ arguments, BraceFree pair.1.toList) :
    (method.segments template arguments).map Segment.text =
      Text.splitAll '/' (method.target arguments).path := by
  rw [(target_eq_giveAll documented namesFree).1, Assembly.target, ← PathTemplate.text_parts]
  refine (splitAll_segments _ ?_).symm
  intro name value member
  obtain ⟨slot, given, rfl, held⟩ := PathTemplate.exists_of_mem_parts member
  obtain ⟨argument, _, rfl⟩ :=
    (documented.filledFrom method.binding.apiKey arguments).values slot given value held
  exact Text.Percent.not_mem_encode (by decide) (by decide) _

/-- Where no name holds a slash the segments are also those of the path as it is documented. -/
theorem written_segments_eq (documented : template.Documents method.path.toList)
    (arguments : List (String × Json)) (names : ∀ name ∈ template.names, '/' ∉ name.toList) :
    (method.segments template arguments).map Segment.written =
      Text.splitAll '/' method.path.toList := by
  have filledFrom := documented.filledFrom method.binding.apiKey arguments
  rw [← written_parts_of_call documented arguments]
  refine (splitAll_segments _ ?_).symm
  intro name value member
  obtain ⟨slot, given, rfl, _⟩ := PathTemplate.exists_of_mem_parts member
  have known : slot.name ∈ template.names := by
    rw [← filledFrom.names_eq]
    exact List.mem_map_of_mem given
  simpa [placeholder] using names slot.name known

/-- The two forms of a segment are alike to the resolving of dots unless values make it one. -/
theorem dots_agree {segment : Segment}
    (stays : segment.HoldsValue → ¬ Url.IsDotSegment segment.text) :
    Url.isUp segment.text = Url.isUp segment.written ∧
      Url.isHere segment.text = Url.isHere segment.written := by
  by_cases holds : segment.HoldsValue
  · have mine := stays holds
    have yours := Segment.not_isDotSegment_written holds
    simp only [Url.IsDotSegment, not_or, Bool.not_eq_true] at mine yours
    rw [mine.1, mine.2, yours.1, yours.2]
    exact ⟨rfl, rfl⟩
  · rw [Segment.text_eq_written holds]
    exact ⟨rfl, rfl⟩

/--
The segments of a path are those of its template with encoded values in them.
None is one of dots unless it is so in the template exactly if no segment into
which values go reads as dots with the values as they are given.  And unless
such a segment is spelled as one of dots, resolving the dots keeps of the path
what it keeps of the template; without a percent sign in the template the
spellings are no more than the dots themselves.
-/
theorem values_stay_in_segments_iff (method : ApiMethod) (template : PathTemplate)
    (documented : template.Documents method.path.toList) (arguments : List (String × Json))
    (namesFree : ∀ pair ∈ arguments, BraceFree pair.1.toList) :
    let segments := method.segments template arguments
    segments.map Segment.text = Text.splitAll '/' (method.target arguments).path ∧
    List.intercalate ['/'] (segments.map Segment.written) = method.path.toList ∧
    ((∀ name ∈ template.names, '/' ∉ name.toList) →
      segments.map Segment.written = Text.splitAll '/' method.path.toList) ∧
    (∀ segment ∈ segments, ∀ name value, .filled name value ∈ segment →
      ∃ argument, (name, argument) ∈ arguments ∧
        value = Text.Percent.encode (argumentText argument)) ∧
    ((∀ segment ∈ segments, IsDots segment.text → IsDots segment.written) ↔
      ∀ segment ∈ segments, segment.HoldsValue → ¬ IsDots segment.plain) ∧
    ((∀ segment ∈ segments, segment.HoldsValue → ¬ Url.IsDotSegment segment.text) →
      ∀ done, Url.HoldSame Segment.text Segment.written ([] :: segments) done
        (Url.resolveDots done (segments.map Segment.text))
        (Url.resolveDots done (segments.map Segment.written))) ∧
    ('%' ∉ method.path.toList →
      ∀ segment ∈ segments, Url.IsDotSegment segment.text ↔ IsDots segment.plain) := by
  intro segments
  refine ⟨text_segments documented namesFree, written_segments documented arguments,
    written_segments_eq documented arguments,
    fun _ member _ _ => exists_argument_of_mem documented member, ?_, ?_, ?_⟩
  · constructor
    · intro fromTemplate segment member holds dots
      have read := (Segment.isDots_text_iff (encoded_of_mem documented member)).2 dots
      exact Segment.not_isDots_written holds (fromTemplate segment member read)
    · intro stays segment member dots
      by_cases holds : segment.HoldsValue
      · have given := (Segment.isDots_text_iff (encoded_of_mem documented member)).1 dots
        exact absurd given (stays segment member holds)
      · rwa [← Segment.text_eq_written holds]
  · intro stays done
    -- The empty segment is among the known ones: dots at the end of a path leave it behind.
    have start : Url.HoldSame Segment.text Segment.written ([] :: segments) done done done :=
      ⟨done, [], List.prefix_refl done, List.forall_mem_nil _, by simp, by simp⟩
    exact start.resolveDots (fun _ member => List.mem_cons_of_mem _ member) List.mem_cons_self rfl
      rfl fun segment member => dots_agree (stays segment member)
  · intro noPercent segment member
    refine Segment.isDotSegment_text_iff (encoded_of_mem documented member) fun inside => ?_
    rw [← written_parts_of_call documented arguments] at noPercent
    exact noPercent (List.mem_flatMap.2
      ⟨_, (of_mem_splitOnP member inside).1, List.mem_singleton_self _⟩)

def bucketPath : PathTemplate :=
  ⟨"/buckets/".toList, [{ name := "bucket", behind := "/objects".toList }]⟩

def bucketMethod : ApiMethod :=
  ⟨"$list", "GET", "/buckets/\x7bbucket\x7d/objects", ⟨none, "https://x/v1"⟩⟩

theorem documents_bucketPath : bucketPath.Documents bucketMethod.path.toList where
  braceFree := by
    refine ⟨by decide +kernel, List.forall_mem_cons.2 ⟨⟨?_, nofun, ?_⟩, nofun⟩⟩
    · decide +kernel
    · decide +kernel
  unfilled := by decide
  text_eq := by decide +kernel

/-- A value of dots with a slash behind them stays one segment, which is not one of dots. -/
theorem values_stay_in_bucket :
    bucketPath.Documents bucketMethod.path.toList ∧
    (bucketMethod.target [("bucket", .string "../x")]).path = "/buckets/..%2Fx/objects".toList ∧
    ∀ segment ∈ bucketMethod.segments bucketPath [("bucket", .string "../x")],
      IsDots segment.text → IsDots segment.written := by
  have names : ∀ pair ∈ [("bucket", Json.string "../x")], BraceFree pair.1.toList := by
    simp [BraceFree]
  refine ⟨documents_bucketPath, by decide +kernel, ?_⟩
  have plain : ∀ segment ∈ bucketMethod.segments bucketPath [("bucket", .string "../x")],
      ¬ IsDots segment.plain := by decide +kernel
  obtain ⟨_, _, _, _, stays, _⟩ :=
    values_stay_in_segments_iff bucketMethod bucketPath documents_bucketPath _ names
  exact stays.2 fun segment member _ => plain segment member

/-- The value of two dots takes away the segment in front of it. -/
theorem dots_take_bucket_away :
    bucketPath.Documents bucketMethod.path.toList ∧
    (∀ pair ∈ [("bucket", Json.string "..")], BraceFree pair.1.toList) ∧
    bucketMethod.requestUrl [("bucket", .string "..")] = "https://x/v1/buckets/../objects?" ∧
    ¬ (∀ segment ∈ bucketMethod.segments bucketPath [("bucket", .string "..")],
      IsDots segment.text → IsDots segment.written) ∧
    (Url.parse? (bucketMethod.requestUrl [("bucket", .string "..")])).map Url.path =
      some "/v1/objects".toList ∧
    (Url.parse? (bucketMethod.requestUrl [("bucket", .string "x")])).map Url.path =
      some "/v1/buckets/x/objects".toList := by
  refine ⟨documents_bucketPath, by simp [BraceFree], by decide +kernel, by decide +kernel,
    by decide +kernel, by decide +kernel⟩

end ApiMethod

end ApiDiscovery
