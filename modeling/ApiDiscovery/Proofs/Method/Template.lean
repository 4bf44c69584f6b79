import ApiDiscovery.Method
import ApiDiscovery.Proofs.Text.Pieces
import ApiDiscovery.Proofs.Text.Percent

/-!
# Path templates

A path of the documented form is read once into literal texts and placeholders.
A call fills the leftmost empty placeholder of an argument's name, and whatever
finds none becomes a parameter.  Replacing text in the path does the same: since
no literal, name or encoded value holds a brace, a placeholder is found in the
path exactly where the template has it.
-/

namespace ApiDiscovery

def BraceFree (text : List Char) : Prop := '\x7b' ∉ text ∧ '\x7d' ∉ text

instance (text : List Char) : Decidable (BraceFree text) :=
  inferInstanceAs (Decidable (_ ∧ _))

theorem BraceFree.append {first second : List Char} (firstFree : BraceFree first)
    (secondFree : BraceFree second) : BraceFree (first ++ second) := by
  simp only [BraceFree, List.mem_append, not_or] at firstFree secondFree ⊢
  exact ⟨⟨firstFree.1, secondFree.1⟩, ⟨firstFree.2, secondFree.2⟩⟩

theorem braceFree_encode (text : List Char) : BraceFree (Text.Percent.encode text) :=
  ⟨Text.Percent.not_mem_encode (by decide) (by decide) text,
    Text.Percent.not_mem_encode (by decide) (by decide) text⟩

/-- A placeholder, the value in its place once it is filled, and the literal text behind it. -/
structure Slot where
  name : String
  value : Option (List Char) := none
  behind : List Char
deriving DecidableEq, Repr

namespace Slot

/-- What stands in the place of a placeholder: its value, or itself as long as it is empty. -/
def text (slot : Slot) : List Char :=
  slot.value.getD (ApiMethod.placeholder slot.name) ++ slot.behind

structure BraceFree (slot : Slot) : Prop where
  name : ApiDiscovery.BraceFree slot.name.toList
  value : ∀ value ∈ slot.value, ApiDiscovery.BraceFree value
  behind : ApiDiscovery.BraceFree slot.behind

def textOfAll (slots : List Slot) : List Char := slots.flatMap text

theorem textOfAll_cons (slot : Slot) (slots : List Slot) :
    textOfAll (slot :: slots) = slot.text ++ textOfAll slots :=
  List.flatMap_cons

/-- The slots with the leftmost empty one of a name filled; `none` if there is none. -/
def fillFirst (name : String) (value : List Char) : List Slot → Option (List Slot)
  | [] => none
  | slot :: slots =>
      if slot.name = name ∧ slot.value = none then some ({ slot with value := some value } :: slots)
      else (fillFirst name value slots).map (slot :: ·)

/-! ## Replacing in the text of slots -/

theorem replaceFirst_filled {slot : Slot} {held : List Char} (filled : slot.value = some held)
    (free : slot.BraceFree) (name : String) (value after : List Char) :
    Text.replaceFirst (ApiMethod.placeholder name) value (slot.text ++ after) =
      (Text.replaceFirst (ApiMethod.placeholder name) value after).map (slot.text ++ ·) := by
  have passed : ApiDiscovery.BraceFree slot.text := by
    rw [text, filled]
    exact (free.value held filled).append free.behind
  exact Text.replaceFirst_append_right passed.1 _ _ _

theorem replaceFirst_empty {slot : Slot} (empty : slot.value = none) (value after : List Char) :
    Text.replaceFirst (ApiMethod.placeholder slot.name) value (slot.text ++ after) =
      some ({ slot with value := some value }.text ++ after) := by
  simp only [text, empty, Option.getD_none, Option.getD_some, List.append_assoc]
  exact Text.replaceFirst_append_left (List.cons_ne_nil _ _) _ _

theorem replaceFirst_other {slot : Slot} (empty : slot.value = none) (free : slot.BraceFree)
    {name : String} (nameFree : ApiDiscovery.BraceFree name.toList) (different : slot.name ≠ name)
    (value after : List Char) :
    Text.replaceFirst (ApiMethod.placeholder name) value (slot.text ++ after) =
      (Text.replaceFirst (ApiMethod.placeholder name) value after).map (slot.text ++ ·) := by
  have otherName : name.toList ≠ slot.name.toList := fun same =>
    different (String.toList_inj.1 same).symm
  have missed : Text.dropLeading (name.toList ++ ['\x7d'])
      ((slot.name.toList ++ '\x7d' :: slot.behind) ++ after) = none := by
    rw [List.append_assoc, List.cons_append]
    exact Text.dropLeading_closed_of_ne nameFree.2 free.name.2 otherName _
  have passed : '\x7b' ∉ slot.name.toList ++ '\x7d' :: slot.behind := by
    simp [free.name.1, free.behind.1]
  have spelled : slot.text = '\x7b' :: (slot.name.toList ++ '\x7d' :: slot.behind) := by
    simp [text, empty, ApiMethod.placeholder]
  have token : ApiMethod.placeholder name = '\x7b' :: (name.toList ++ ['\x7d']) := rfl
  rw [spelled, token, List.cons_append, Text.replaceFirst, Text.dropLeading, if_pos rfl, missed]
  dsimp only
  rw [Text.replaceFirst_append_right passed, Option.map_map]
  rfl

/-- Replacing in the text of slots fills the leftmost empty slot of the name. -/
theorem replaceFirst_textOfAll {slots : List Slot} (free : ∀ slot ∈ slots, slot.BraceFree)
    {name : String} (nameFree : ApiDiscovery.BraceFree name.toList) (value : List Char) :
    Text.replaceFirst (ApiMethod.placeholder name) value (textOfAll slots) =
      (fillFirst name value slots).map textOfAll := by
  induction slots with
  | nil => rfl
  | cons slot slots ih =>
      obtain ⟨first, others⟩ := List.forall_mem_cons.1 free
      rw [textOfAll_cons, fillFirst]
      cases held : slot.value with
      | some old =>
          rw [replaceFirst_filled held first, ih others, if_neg (by simp), Option.map_map,
            Option.map_map]
          rfl
      | none =>
          by_cases same : slot.name = name
          · rw [← same, replaceFirst_empty held, if_pos ⟨rfl, rfl⟩]
            rfl
          · rw [replaceFirst_other held first nameFree same, ih others, if_neg (by simp [same]),
              Option.map_map, Option.map_map]
            rfl

theorem braceFree_of_fillFirst {slots filled : List Slot} (free : ∀ slot ∈ slots, slot.BraceFree)
    {name : String} {value : List Char} (valueFree : ApiDiscovery.BraceFree value)
    (done : fillFirst name value slots = some filled) : ∀ slot ∈ filled, slot.BraceFree := by
  induction slots generalizing filled with
  | nil => cases done
  | cons slot slots ih =>
      obtain ⟨first, others⟩ := List.forall_mem_cons.1 free
      rw [fillFirst] at done
      split at done
      · cases done
        refine List.forall_mem_cons.2 ⟨⟨first.name, ?_, first.behind⟩, others⟩
        rintro _ ⟨⟩
        exact valueFree
      · obtain ⟨rest, restDone, rfl⟩ := Option.map_eq_some_iff.1 done
        exact List.forall_mem_cons.2 ⟨first, ih others restDone⟩

/-! ## What the names alone decide -/

/-- The names of some slots, and which of them are filled. -/
def outline (slots : List Slot) : List (String × Bool) :=
  slots.map fun slot => (slot.name, slot.value.isSome)

def mark (name : String) : List (String × Bool) → List (String × Bool)
  | [] => []
  | (slot, filled) :: slots =>
      if slot = name ∧ filled = false then (slot, true) :: slots
      else (slot, filled) :: mark name slots

theorem outline_fillFirst (name : String) (value : List Char) (slots : List Slot) :
    outline ((fillFirst name value slots).getD slots) = mark name (outline slots) := by
  induction slots with
  | nil => rfl
  | cons slot slots ih =>
      have outline_cons : outline (slot :: slots) =
          (slot.name, slot.value.isSome) :: outline slots := rfl
      rw [fillFirst, outline_cons, mark]
      by_cases fits : slot.name = name ∧ slot.value = none
      · rw [if_pos fits, if_pos ⟨fits.1, by rw [fits.2]; rfl⟩]
        rfl
      · rw [if_neg fits, if_neg (by simpa using fits), ← ih]
        cases fillFirst name value slots <;> rfl

end Slot

/-- A path as literal text and placeholders in turn. -/
structure PathTemplate where
  opening : List Char
  slots : List Slot
deriving DecidableEq, Repr

namespace PathTemplate

def text (template : PathTemplate) : List Char :=
  template.opening ++ Slot.textOfAll template.slots

structure BraceFree (template : PathTemplate) : Prop where
  opening : ApiDiscovery.BraceFree template.opening
  slots : ∀ slot ∈ template.slots, slot.BraceFree

/-- A path of the documented form: the text of a template without braces, nothing of it filled. -/
structure Documents (template : PathTemplate) (path : List Char) : Prop where
  braceFree : template.BraceFree
  unfilled : ∀ slot ∈ template.slots, slot.value = none
  text_eq : template.text = path

def fill (template : PathTemplate) (name : String) (value : List Char) : Option PathTemplate :=
  (Slot.fillFirst name value template.slots).map ({ template with slots := · })

theorem replaceFirst_text {template : PathTemplate} (free : template.BraceFree) {name : String}
    (nameFree : ApiDiscovery.BraceFree name.toList) (value : List Char) :
    Text.replaceFirst (ApiMethod.placeholder name) value template.text =
      (template.fill name value).map text := by
  have token : ApiMethod.placeholder name = '\x7b' :: (name.toList ++ ['\x7d']) := rfl
  rw [text, token, Text.replaceFirst_append_right free.opening.1, ← token,
    Slot.replaceFirst_textOfAll free.slots nameFree, fill, Option.map_map, Option.map_map]
  rfl

theorem BraceFree.fill {template filled : PathTemplate} (free : template.BraceFree)
    {name : String} {value : List Char} (valueFree : ApiDiscovery.BraceFree value)
    (done : template.fill name value = some filled) : filled.BraceFree := by
  obtain ⟨slots, slotsDone, rfl⟩ := Option.map_eq_some_iff.1 done
  exact ⟨free.opening, Slot.braceFree_of_fillFirst free.slots valueFree slotsDone⟩

/-! ## Reading a path -/

mutual

/-- The literals and placeholders of a path; `none` if its braces are not those of placeholders. -/
def ofPath? : List Char → Option PathTemplate
  | [] => some ⟨[], []⟩
  | c :: rest =>
      if c = '\x7b' then
        (ofName? rest).map fun (name, after) =>
          ⟨[], { name := String.ofList name, behind := after.opening } :: after.slots⟩
      else if c = '\x7d' then none
      else (ofPath? rest).map fun after => { after with opening := c :: after.opening }

/-- The name of a placeholder whose opening brace has been read, and what is behind it. -/
def ofName? : List Char → Option (List Char × PathTemplate)
  | [] => none
  | c :: rest =>
      if c = '\x7d' then (ofPath? rest).map fun after => ([], after)
      else if c = '\x7b' then none
      else (ofName? rest).map fun (name, after) => (c :: name, after)

end

theorem ofPath?_literal_append {literal : List Char} (free : ApiDiscovery.BraceFree literal)
    (rest : List Char) :
    ofPath? (literal ++ rest) =
      (ofPath? rest).map fun after => { after with opening := literal ++ after.opening } := by
  induction literal with
  | nil => cases h : ofPath? rest <;> simp [h]
  | cons c literal ih =>
      simp only [ApiDiscovery.BraceFree, List.mem_cons, not_or] at free
      rw [List.cons_append, ofPath?, if_neg (Ne.symm free.1.1), if_neg (Ne.symm free.2.1),
        ih ⟨free.1.2, free.2.2⟩, Option.map_map]
      rfl

theorem ofName?_append {name : List Char} (free : ApiDiscovery.BraceFree name) (rest : List Char) :
    ofName? (name ++ '\x7d' :: rest) = (ofPath? rest).map fun after => (name, after) := by
  induction name with
  | nil => rw [List.nil_append, ofName?, if_pos rfl]
  | cons c name ih =>
      simp only [ApiDiscovery.BraceFree, List.mem_cons, not_or] at free
      rw [List.cons_append, ofName?, if_neg (Ne.symm free.2.1), if_neg (Ne.symm free.1.1),
        ih ⟨free.1.2, free.2.2⟩, Option.map_map]
      rfl

theorem ofPath?_placeholder_append {name : String} (free : ApiDiscovery.BraceFree name.toList)
    (rest : List Char) :
    ofPath? (ApiMethod.placeholder name ++ rest) =
      (ofPath? rest).map fun after =>
        ⟨[], { name := name, behind := after.opening } :: after.slots⟩ := by
  have spelled : ApiMethod.placeholder name ++ rest =
      '\x7b' :: (name.toList ++ '\x7d' :: rest) := by simp [ApiMethod.placeholder]
  rw [spelled, ofPath?, if_pos rfl, ofName?_append free, Option.map_map]
  simp [Function.comp_def]

/-- A template in which every value has become part of the literal text around it. -/
def settle (literal : List Char) : List Slot → PathTemplate
  | [] => ⟨literal, []⟩
  | ⟨_, some value, behind⟩ :: slots => settle (literal ++ value ++ behind) slots
  | ⟨name, none, behind⟩ :: slots =>
      ⟨literal, { name := name, behind := (settle behind slots).opening } ::
        (settle behind slots).slots⟩

def settled (template : PathTemplate) : PathTemplate := settle template.opening template.slots

theorem ofPath?_append_textOfAll {slots : List Slot} (free : ∀ slot ∈ slots, slot.BraceFree)
    {literal : List Char} (literalFree : ApiDiscovery.BraceFree literal) :
    ofPath? (literal ++ Slot.textOfAll slots) = some (settle literal slots) := by
  induction slots generalizing literal with
  | nil =>
      rw [ofPath?_literal_append literalFree, settle]
      simp [Slot.textOfAll, ofPath?]
  | cons slot slots ih =>
      obtain ⟨first, others⟩ := List.forall_mem_cons.1 free
      obtain ⟨name, value, behind⟩ := slot
      rw [Slot.textOfAll_cons, Slot.text]
      cases value with
      | some value =>
          have longer : ApiDiscovery.BraceFree (literal ++ value ++ behind) :=
            (literalFree.append (first.value value rfl)).append first.behind
          rw [settle, ← ih others longer]
          simp only [Option.getD_some, List.append_assoc]
      | none =>
          simp only [Option.getD_none, List.append_assoc]
          rw [ofPath?_literal_append literalFree, ofPath?_placeholder_append first.name,
            ih others first.behind, settle]
          simp

/-- A text is read back as its template with the values made literal. -/
theorem ofPath?_text {template : PathTemplate} (free : template.BraceFree) :
    ofPath? template.text = some template.settled :=
  ofPath?_append_textOfAll free.slots free.opening

theorem settle_of_unfilled {slots : List Slot} (unfilled : ∀ slot ∈ slots, slot.value = none)
    (literal : List Char) : settle literal slots = ⟨literal, slots⟩ := by
  induction slots generalizing literal with
  | nil => rfl
  | cons slot slots ih =>
      obtain ⟨first, others⟩ := List.forall_mem_cons.1 unfilled
      obtain ⟨name, value, behind⟩ := slot
      dsimp only at first
      subst first
      rw [settle, ih others]

/-- A documented path is read as the template that documents it. -/
theorem Documents.ofPath?_eq {template : PathTemplate} {path : List Char}
    (documented : template.Documents path) : ofPath? path = some template := by
  rw [← documented.text_eq, ofPath?_text documented.braceFree, settled,
    settle_of_unfilled documented.unfilled]

end PathTemplate

/-! ## Calls -/

/-- A template and the parameters behind the question mark, some arguments having been given. -/
structure Assembly where
  template : PathTemplate
  parameters : List (List Char)
deriving DecidableEq, Repr

namespace Assembly

/-- One argument more: it fills the leftmost empty placeholder of its name or is a parameter. -/
def give (assembly : Assembly) (name : String) (argument : Json) : Assembly :=
  let value := Text.Percent.encode (ApiMethod.argumentText argument)
  match assembly.template.fill name value with
  | some filled => { assembly with template := filled }
  | none => { assembly with parameters := assembly.parameters ++ [name.toList ++ '=' :: value] }

def giveAll (assembly : Assembly) (arguments : List (String × Json)) : Assembly :=
  arguments.foldl (fun assembly (name, argument) => assembly.give name argument) assembly

/-- Before any argument: the key, if there is one, is the first parameter. -/
def start (template : PathTemplate) (apiKey : Option String) : Assembly :=
  ⟨template, (apiKey.map fun key => "key=".toList ++ key.toList).toList⟩

/-- The address: the base, the template, a question mark, and the parameters with `&` between. -/
def url (assembly : Assembly) (baseUrl : String) : String :=
  String.ofList (baseUrl.toList ++ assembly.template.text ++
    '?' :: List.intercalate ['&'] assembly.parameters)

def target (assembly : Assembly) : ApiMethod.Target :=
  ⟨assembly.template.text, assembly.parameters⟩

variable {assembly : Assembly}

theorem target_give (free : assembly.template.BraceFree) {name : String}
    (nameFree : BraceFree name.toList) (argument : Json) :
    assembly.target.give name argument = (assembly.give name argument).target := by
  rw [ApiMethod.Target.give, give, target, PathTemplate.replaceFirst_text free nameFree]
  cases assembly.template.fill name (Text.Percent.encode (ApiMethod.argumentText argument)) with
  | none => rfl
  | some filled => rfl

theorem braceFree_give (free : assembly.template.BraceFree) (name : String) (argument : Json) :
    (assembly.give name argument).template.BraceFree := by
  rw [give]
  cases done : assembly.template.fill name
      (Text.Percent.encode (ApiMethod.argumentText argument)) with
  | none => exact free
  | some filled => exact free.fill (braceFree_encode _) done

/-- Step by step the path of a call is the text of the assembled template. -/
theorem target_giveAll (free : assembly.template.BraceFree) {arguments : List (String × Json)}
    (namesFree : ∀ pair ∈ arguments, BraceFree pair.1.toList) :
    arguments.foldl (fun target (name, argument) => target.give name argument) assembly.target =
        (assembly.giveAll arguments).target ∧
      (assembly.giveAll arguments).template.BraceFree := by
  induction arguments generalizing assembly with
  | nil => exact ⟨rfl, free⟩
  | cons pair arguments ih =>
      obtain ⟨first, others⟩ := List.forall_mem_cons.1 namesFree
      rw [List.foldl_cons, giveAll, List.foldl_cons]
      dsimp only
      rw [target_give free first]
      exact ih (braceFree_give free pair.1 pair.2) others

theorem outline_give (assembly : Assembly) (name : String) (argument : Json) :
    Slot.outline (assembly.give name argument).template.slots =
      Slot.mark name (Slot.outline assembly.template.slots) := by
  rw [give, ← Slot.outline_fillFirst name (Text.Percent.encode (ApiMethod.argumentText argument)),
    PathTemplate.fill]
  cases Slot.fillFirst name (Text.Percent.encode (ApiMethod.argumentText argument))
      assembly.template.slots with
  | none => rfl
  | some slots => rfl

/-- Which placeholders get filled is decided by the names of the arguments. -/
theorem outline_giveAll (assembly : Assembly) (arguments : List (String × Json)) :
    Slot.outline (assembly.giveAll arguments).template.slots =
      (arguments.map Prod.fst).foldl (fun outline name => Slot.mark name outline)
        (Slot.outline assembly.template.slots) := by
  induction arguments generalizing assembly with
  | nil => rfl
  | cons pair arguments ih =>
      rw [giveAll, List.foldl_cons, List.map_cons, List.foldl_cons, ← outline_give]
      exact ih _

end Assembly

namespace ApiMethod

theorem target_eq_giveAll {method : ApiMethod} {template : PathTemplate}
    (documented : template.Documents method.path.toList) {arguments : List (String × Json)}
    (namesFree : ∀ pair ∈ arguments, BraceFree pair.1.toList) :
    method.target arguments =
        ((Assembly.start template method.binding.apiKey).giveAll arguments).target ∧
      ((Assembly.start template method.binding.apiKey).giveAll arguments).template.BraceFree := by
  have started : (Assembly.start template method.binding.apiKey).target =
      ⟨method.path.toList, method.binding.parameters⟩ := by
    rw [Assembly.target, Assembly.start, documented.text_eq, Binding.parameters]
    cases method.binding.apiKey with
    | none => rfl
    | some key => rfl
  rw [target, ← started]
  exact Assembly.target_giveAll documented.braceFree namesFree

/--
The address of a call whose path is of the documented form: the template of the
path with its placeholders filled in turn, and behind it what found no
placeholder.  Read again, the path has exactly the placeholders that were left
empty, and which ones these are the values of the arguments do not decide.
-/
theorem requestUrl_fills_template (method : ApiMethod) (template : PathTemplate)
    (documented : template.Documents method.path.toList) (arguments : List (String × Json))
    (namesFree : ∀ pair ∈ arguments, BraceFree pair.1.toList) :
    PathTemplate.ofPath? method.path.toList = some template ∧
    method.requestUrl arguments =
      ((Assembly.start template method.binding.apiKey).giveAll arguments).url
        method.binding.baseUrl ∧
    PathTemplate.ofPath? (method.target arguments).path =
      some ((Assembly.start template method.binding.apiKey).giveAll arguments).template.settled ∧
    ∀ others : List (String × Json), others.map Prod.fst = arguments.map Prod.fst →
      Slot.outline ((Assembly.start template method.binding.apiKey).giveAll others).template.slots =
        Slot.outline
          ((Assembly.start template method.binding.apiKey).giveAll arguments).template.slots := by
  obtain ⟨same, free⟩ := target_eq_giveAll documented namesFree
  refine ⟨documented.ofPath?_eq, ?_, ?_, ?_⟩
  · rw [requestUrl, same, Assembly.url, Text.joinWith_eq_intercalate]
    rfl
  · rw [same]
    exact PathTemplate.ofPath?_text free
  · intro others sameNames
    rw [Assembly.outline_giveAll, Assembly.outline_giveAll, sameNames]

/-- A path that names one placeholder twice. -/
def copyPath : PathTemplate :=
  ⟨"/b/".toList, [{ name := "bucket", behind := "/o/".toList },
    { name := "object", behind := "/to/".toList }, { name := "bucket", behind := [] }]⟩

def copyMethod : ApiMethod :=
  ⟨"$copy", "POST", "/b/\x7bbucket\x7d/o/\x7bobject\x7d/to/\x7bbucket\x7d",
    ⟨some "k", "https://x"⟩⟩

theorem documents_copyPath : copyPath.Documents copyMethod.path.toList where
  braceFree := by
    refine ⟨by decide, ?_⟩
    simp only [copyPath, List.forall_mem_cons]
    exact ⟨⟨by decide, nofun, by decide⟩, ⟨by decide, nofun, by decide⟩,
      ⟨by decide, nofun, by decide⟩, nofun⟩
  unfilled := by decide
  text_eq := by decide

theorem requestUrl_fills_copyPath :
    copyPath.Documents copyMethod.path.toList ∧
    copyMethod.requestUrl [("object", .string "\x7bbucket\x7d"), ("bucket", .string "a/b"),
        ("bucket", .string "\u00e9"), ("bucket", .string "x&y"), ("", .null)] =
      "https://x/b/a%2Fb/o/%7Bbucket%7D/to/%C3%A9?key=k&bucket=x%26y&=null" := by
  refine ⟨documents_copyPath, ?_⟩
  have names : ∀ pair ∈ [("object", Json.string "\x7bbucket\x7d"), ("bucket", .string "a/b"),
      ("bucket", .string "\u00e9"), ("bucket", .string "x&y"), ("", .null)],
      BraceFree pair.1.toList := by simp [BraceFree]
  rw [(requestUrl_fills_template copyMethod copyPath documents_copyPath _ names).2.1]
  decide +kernel

end ApiMethod

end ApiDiscovery
