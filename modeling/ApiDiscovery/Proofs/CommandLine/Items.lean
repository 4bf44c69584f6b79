import ApiDiscovery.CommandLine.Run
import ApiDiscovery.Proofs.Text.Pieces
import Mathlib.Data.List.Forall2

/-!
# The items of a command line

The arguments of a command line come to words and to options with their values.
What a reading that succeeds makes of them is told by these items alone: the
first word names the command, the other words are its own, and of the values of
an option the last one counts.
-/

namespace ApiDiscovery.CommandLine

/-- A word of the command line, or an option with its value.  Switches come to nothing. -/
inductive Item where
  | word (text : String)
  | value (option : ValueOption) (text : String)
deriving DecidableEq, Repr

def ValueOption.ofName? (name : String) : Option ValueOption :=
  (.body :: shared).find? fun option => option.name == name

/--
The items of some arguments.  An option without an equals sign takes the next
argument as its value, and behind two dashes alone there are only words.
-/
def itemsFrom : Bool → Option ValueOption → List String → List Item
  | _, _, [] => []
  | onlyWords, some option, argument :: rest =>
      .value option argument :: itemsFrom onlyWords none rest
  | true, none, argument :: rest => .word argument :: itemsFrom true none rest
  | false, none, argument :: rest =>
      match argument.toList with
      | ['-', '-'] => itemsFrom true none rest
      | '-' :: '-' :: written =>
          match Text.splitFirst '=' written with
          | none => itemsFrom false (ValueOption.ofName? (String.ofList written)) rest
          | some (name, value) =>
              ((ValueOption.ofName? (String.ofList name)).map fun option =>
                Item.value option (String.ofList value)).toList ++ itemsFrom false none rest
      | '-' :: _ :: _ => itemsFrom false none rest
      | _ => .word argument :: itemsFrom false none rest

section

variable {argument : String} {written : List Char}

theorem itemsFrom_long (spelled : argument.toList = '-' :: '-' :: written) (named : written ≠ [])
    (rest : List String) :
    itemsFrom false none (argument :: rest) =
      match Text.splitFirst '=' written with
      | none => itemsFrom false (ValueOption.ofName? (String.ofList written)) rest
      | some (name, value) =>
          ((ValueOption.ofName? (String.ofList name)).map fun option =>
            Item.value option (String.ofList value)).toList ++ itemsFrom false none rest := by
  rw [itemsFrom, spelled]
  split
  · next lone => exact absurd (List.cons.inj (List.cons.inj lone).2).2 named
  · next long =>
      cases long
      rfl
  · next notLong short =>
      exact absurd (List.cons.inj (List.cons.inj short).2).1.symm notLong
  · next notLong _ => exact absurd rfl (notLong written)

theorem itemsFrom_short {c : Char} (spelled : argument.toList = '-' :: c :: written)
    (other : c ≠ '-') (rest : List String) :
    itemsFrom false none (argument :: rest) = itemsFrom false none rest := by
  rw [itemsFrom, spelled]
  split
  · next lone => exact absurd (List.cons.inj (List.cons.inj lone).2).1 other
  · next long => exact absurd (List.cons.inj (List.cons.inj long).2).1 other
  · rfl
  · next _ _ notShort => exact absurd rfl (notShort c written)

theorem itemsFrom_plain (plain : ∀ c rest, argument.toList ≠ '-' :: c :: rest)
    (rest : List String) :
    itemsFrom false none (argument :: rest) = .word argument :: itemsFrom false none rest := by
  rw [itemsFrom]
  split
  · next lone => exact absurd lone (plain _ _)
  · next long => exact absurd long (plain _ _)
  · next short => exact absurd short (plain _ _)
  · rfl

end

def itemsOf (arguments : List String) : List Item := itemsFrom false none arguments

def wordsAmong (items : List Item) : List String :=
  items.filterMap fun
    | .word text => some text
    | .value _ _ => none

def valuesAmong (items : List Item) : List (ValueOption × String) :=
  items.filterMap fun
    | .word _ => none
    | .value option text => some (option, text)

def wordsOf (arguments : List String) : List String := wordsAmong (itemsOf arguments)

/-- The last value that a command line gives to an option. -/
def lastValue? (arguments : List String) (option : ValueOption) : Option String :=
  (valuesAmong (itemsOf arguments)).reverse.lookup option

/-- The pair is a word cut at its first equals sign. -/
def CutAtEquals (word : String) (pair : String × String) : Prop :=
  word.toList = pair.1.toList ++ '=' :: pair.2.toList ∧ '=' ∉ pair.1.toList

namespace State

/-- What a state holds of the items read so far. -/
structure Holds (state : State) (items : List Item) : Prop where
  values : state.behind.values ++ state.before.values = (valuesAmong items).reverse
  verb :
    state.verb = none ∧ state.words = [] ∧ state.behind.values = [] ∧ wordsAmong items = [] ∨
    ∃ name verb, state.verb = some verb ∧ Verb.ofName? name = some verb ∧
      wordsAmong items = name :: state.words
  pairs : ∀ word ∈ state.words.tail, '=' ∈ word.toList
  pending : ∀ option ∈ state.pending, option ∈ optionsBehind state.verb
  noBody : ∀ pair ∈ state.before.values, pair.1 ≠ .body

/-- Nothing changes but which switches are on. -/
structure SameItems (state next : State) : Prop where
  before : next.before.values = state.before.values
  behind : next.behind.values = state.behind.values
  verb : next.verb = state.verb
  words : next.words = state.words
  pending : next.pending = state.pending
  onlyWords : next.onlyWords = state.onlyWords

theorem SameItems.holds {state next : State} (same : SameItems state next) {items : List Item}
    (holds : state.Holds items) : next.Holds items where
  values := by rw [same.behind, same.before, holds.values]
  verb := by rw [same.verb, same.words, same.behind]; exact holds.verb
  pairs := by rw [same.words]; exact holds.pairs
  pending := by rw [same.pending, same.verb]; exact holds.pending
  noBody := by rw [same.before]; exact holds.noBody

theorem SameItems.trans {first second third : State} (one : SameItems first second)
    (two : SameItems second third) : SameItems first third where
  before := two.before.trans one.before
  behind := two.behind.trans one.behind
  verb := two.verb.trans one.verb
  words := two.words.trans one.words
  pending := two.pending.trans one.pending
  onlyWords := two.onlyWords.trans one.onlyWords

theorem holds_start : State.Holds {} [] where
  values := rfl
  verb := .inl ⟨rfl, rfl, rfl, rfl⟩
  pairs := nofun
  pending := nofun
  noBody := nofun

variable {state next : State} {items : List Item}

theorem current_of_none (noVerb : state.verb = none) : state.current = state.before := by
  rw [current, noVerb]

theorem current_of_some {verb : Verb} (known : state.verb = some verb) :
    state.current = state.behind := by
  rw [current, known]

theorem withCurrent_of_none (noVerb : state.verb = none) (given : Given) :
    state.withCurrent given = { state with before := given } := by
  unfold withCurrent
  split
  · rfl
  · next known =>
      rw [noVerb] at known
      cases known

theorem withCurrent_of_some {verb : Verb} (known : state.verb = some verb) (given : Given) :
    state.withCurrent given = { state with behind := given } := by
  unfold withCurrent
  split
  · next noVerb =>
      rw [known] at noVerb
      cases noVerb
  · rfl

/-! ## Switches -/

theorem sameItems_of_giveVerbose (given : state.giveVerbose = .ok next) : SameItems state next := by
  rw [giveVerbose] at given
  split at given
  · cases given
  · cases given
    cases known : state.verb with
    | none =>
        rw [current_of_none known, withCurrent_of_none known]
        exact ⟨rfl, rfl, rfl, rfl, rfl, rfl⟩
    | some verb =>
        rw [current_of_some known, withCurrent_of_some known]
        exact ⟨rfl, rfl, rfl, rfl, rfl, rfl⟩

theorem sameItems_of_giveShort {written : List Char} (given : state.giveShort written = .ok next) :
    SameItems state next := by
  induction written generalizing state with
  | nil =>
      cases given
      exact ⟨rfl, rfl, rfl, rfl, rfl, rfl⟩
  | cons c rest ih =>
      rw [giveShort] at given
      split at given
      · split at given
        · cases given
        · next turned => exact (sameItems_of_giveVerbose turned).trans (ih given)
      · split at given
        · cases given
        · split at given <;> cases given

/-! ## Words and values -/

theorem holds_giveWord (holds : state.Holds items) (settled : state.pending = none)
    {word : String} (given : state.giveWord word = .ok next) :
    next.Holds (items ++ [.word word]) ∧ next.pending = none ∧
      next.onlyWords = state.onlyWords := by
  have sameValues : valuesAmong (items ++ [.word word]) = valuesAmong items := by
    simp [valuesAmong]
  have oneMore : wordsAmong (items ++ [.word word]) = wordsAmong items ++ [word] := by
    simp [wordsAmong]
  rw [giveWord] at given
  split at given
  · next noVerb =>
      rcases holds.verb with ⟨-, noWords, -, none⟩ | ⟨_, _, known, _⟩
      · split at given
        · cases given
        · split at given
          · next verb named =>
              cases given
              refine ⟨⟨?_, .inr ⟨word, verb, rfl, named, ?_⟩, holds.pairs, ?_, holds.noBody⟩,
                settled, rfl⟩
              · rw [sameValues]
                exact holds.values
              · rw [oneMore, none, noWords]
                rfl
              · rw [settled]
                nofun
          · split at given <;> cases given
      · rw [noVerb] at known
        cases known
  · next isCall =>
      split at given
      · next fits =>
          cases given
          refine ⟨⟨?_, ?_, ?_, holds.pending, holds.noBody⟩, settled, rfl⟩
          · rw [sameValues]
            exact holds.values
          · rcases holds.verb with ⟨noVerb, _⟩ | ⟨name, verb, known, named, words⟩
            · rw [isCall] at noVerb
              cases noVerb
            · exact .inr ⟨name, verb, known, named, by rw [oneMore, words]; rfl⟩
          · cases words : state.words with
            | nil => nofun
            | cons first others =>
                have later := holds.pairs
                rw [words] at later fits
                intro other member
                rcases List.mem_append.1 member with old | new
                · exact later other old
                · rw [List.mem_singleton.1 new]
                  simpa using fits
      · cases given
  · cases given

theorem holds_giveValue (holds : state.Holds items) {option : ValueOption}
    (known : option ∈ optionsBehind state.verb) {value : String}
    (given : state.giveValue option value = .ok next) :
    next.Holds (items ++ [.value option value]) ∧ next.pending = none ∧
      next.onlyWords = state.onlyWords := by
  have oneMore : valuesAmong (items ++ [.value option value]) =
      valuesAmong items ++ [(option, value)] := by simp [valuesAmong]
  have sameWords : wordsAmong (items ++ [.value option value]) = wordsAmong items := by
    simp [wordsAmong]
  have values := holds.values
  rw [giveValue] at given
  split at given
  · cases given
  · cases given
    cases verb : state.verb with
    | none =>
        rw [current_of_none verb, withCurrent_of_none verb]
        rcases holds.verb with ⟨-, noWords, noneBehind, none⟩ | ⟨_, _, impossible, _⟩
        · refine ⟨⟨?_, .inl ⟨verb, noWords, noneBehind, sameWords.trans none⟩, holds.pairs, nofun,
            ?_⟩, rfl, rfl⟩
          · rw [noneBehind, List.nil_append] at values
            simp [oneMore, noneBehind, values]
          · rw [verb] at known
            refine List.forall_mem_cons.2 ⟨?_, holds.noBody⟩
            rintro rfl
            exact absurd known (by decide)
        · rw [verb] at impossible
          cases impossible
    | some command =>
        rw [current_of_some verb, withCurrent_of_some verb]
        refine ⟨⟨?_, ?_, holds.pairs, nofun, holds.noBody⟩, rfl, rfl⟩
        · simp [oneMore, values]
        · rw [sameWords]
          rcases holds.verb with ⟨noVerb, _⟩ | named
          · rw [verb] at noVerb
            cases noVerb
          · exact .inr named

/-! ## One argument -/

/-- One argument more is read: its items stand before those of the arguments behind it. -/
def Advances (state next : State) (argument : String) (items : List Item) : Prop :=
  ∃ new, next.Holds (items ++ new) ∧ ∀ rest,
    itemsFrom state.onlyWords state.pending (argument :: rest) =
      new ++ itemsFrom next.onlyWords next.pending rest

theorem ofName?_of_find {verb : Option Verb} {name : String} {option : ValueOption}
    (found : ((optionsBehind verb).find? fun option => option.name == name) = some option) :
    ValueOption.ofName? name = some option ∧ option ∈ optionsBehind verb := by
  have named : option.name = name := by simpa using List.find?_some found
  refine ⟨?_, List.mem_of_find?_eq_some found⟩
  rw [← named]
  cases option <;> rfl

theorem advances_giveLong (holds : state.Holds items) (settled : state.pending = none)
    (anyItem : state.onlyWords = false) {argument : String} {written : List Char}
    (spelled : argument.toList = '-' :: '-' :: written) (some_name : written ≠ [])
    (given : state.giveLong written = .ok next) : Advances state next argument items := by
  have unfolded := itemsFrom_long spelled some_name
  rw [giveLong] at given
  cases cut : Text.splitFirst '=' written with
  | none =>
      rw [cut] at given unfolded
      dsimp only at given unfolded
      split at given
      · next impossible => cases impossible
      · next option _ found noValue =>
          obtain ⟨named, known⟩ := ofName?_of_find found
          split at given
          · cases given
          · cases given
            refine ⟨[], ⟨by simpa using holds.values, by simpa using holds.verb, holds.pairs, ?_,
              holds.noBody⟩, fun rest => ?_⟩
            · rintro _ ⟨⟩
              exact known
            · rw [settled, anyItem, unfolded, named]
              rfl
      · cases given
      · split at given
        · next isVerbose =>
            have same := sameItems_of_giveVerbose given
            refine ⟨[], by simpa using same.holds holds, fun rest => ?_⟩
            rw [same.pending, same.onlyWords, settled, anyItem, unfolded, isVerbose]
            rfl
        · split at given
          · cases given
          · split at given <;> cases given
  | some pair =>
      obtain ⟨name, value⟩ := pair
      rw [cut] at given unfolded
      dsimp only at given unfolded
      split at given
      · next option _ found sameValue =>
          obtain ⟨named, known⟩ := ofName?_of_find found
          rw [← Option.some.inj sameValue] at given
          obtain ⟨nextHolds, nextSettled, sameWords⟩ := holds_giveValue holds known given
          refine ⟨_, nextHolds, fun rest => ?_⟩
          rw [nextSettled, sameWords, settled, anyItem, unfolded, named]
          rfl
      · next impossible => cases impossible
      · cases given
      · next impossible => cases impossible

theorem advances_give (holds : state.Holds items) {argument : String}
    (given : state.give argument = .ok next) : Advances state next argument items := by
  rw [give] at given
  split at given
  · next option waiting =>
      have known := holds.pending option waiting
      split at given
      · cases given
      · obtain ⟨nextHolds, settled, sameWords⟩ := holds_giveValue holds known given
        refine ⟨_, nextHolds, fun rest => ?_⟩
        rw [waiting, settled, sameWords, itemsFrom]
        rfl
  · next settled =>
      split at given
      · next onlyWords =>
          obtain ⟨nextHolds, nextSettled, sameWords⟩ := holds_giveWord holds settled given
          refine ⟨_, nextHolds, fun rest => ?_⟩
          rw [settled, nextSettled, sameWords, onlyWords, itemsFrom]
          rfl
      · next anyItem =>
          rw [Bool.not_eq_true] at anyItem
          split at given
          · next spelled =>
              cases given
              refine ⟨[], ⟨by simpa using holds.values, by simpa using holds.verb, holds.pairs,
                holds.pending, holds.noBody⟩, fun rest => ?_⟩
              rw [anyItem, settled, itemsFrom, spelled]
              rfl
          · next written different spelled =>
              have some_name : written ≠ [] := by
                rintro rfl
                exact different rfl
              exact advances_giveLong holds settled anyItem spelled some_name given
          · next c rest _ notLong spelled =>
              have same := sameItems_of_giveShort given
              refine ⟨[], by simpa using same.holds holds, fun rest => ?_⟩
              rw [same.pending, same.onlyWords, anyItem, settled, itemsFrom_short spelled notLong]
              rfl
          · next notLone notLong notShort =>
              obtain ⟨nextHolds, nextSettled, sameWords⟩ := holds_giveWord holds settled given
              refine ⟨_, nextHolds, fun rest => ?_⟩
              rw [settled, nextSettled, sameWords, anyItem, itemsFrom_plain notShort]
              rfl

/-! ## All arguments -/

/-- Step by step a state holds all items of the arguments read. -/
theorem Holds.foldlM {arguments : List String} {final : State} (holds : state.Holds items)
    (done : arguments.foldlM State.give state = .ok final) :
    final.Holds (items ++ itemsFrom state.onlyWords state.pending arguments) := by
  induction arguments generalizing state items with
  | nil =>
      cases done
      rw [itemsFrom, List.append_nil]
      exact holds
  | cons argument arguments ih =>
      rw [List.foldlM_cons] at done
      cases given : state.give argument with
      | error stop =>
          rw [given] at done
          cases done
      | ok next =>
          rw [given] at done
          obtain ⟨new, nextHolds, items_eq⟩ := advances_give holds given
          rw [items_eq, ← List.append_assoc]
          exact ih nextHolds done

theorem Holds.lookup_eq {option : ValueOption} (holds : state.Holds items) :
    (state.behind.value? option <|> state.before.value? option) =
      (valuesAmong items).reverse.lookup option := by
  rw [← holds.values, List.lookup_append, Given.value?, Given.value?]
  cases state.behind.values.lookup option <;> rfl

theorem Holds.body_eq (holds : state.Holds items) :
    state.behind.value? .body = (valuesAmong items).reverse.lookup .body := by
  have noBody : state.before.values.lookup .body = none := by
    rw [List.lookup_eq_none_iff]
    intro pair member
    simpa using Ne.symm (holds.noBody pair member)
  rw [← holds.lookup_eq, Given.value?, Given.value?, noBody]
  cases state.behind.values.lookup .body <;> rfl

end State

theorem Verb.eq_call_of_ofName? {name : String} (named : Verb.ofName? name = some .call) :
    name = "call" := by
  rw [Verb.ofName?] at named
  split at named
  · cases named
  · split at named
    · cases named
    · split at named
      · next same => exact same
      · cases named

/-! ## What a command line asks for -/

/-- The options that a command line gives, the environment giving the key if it does not. -/
def optionsOf (arguments : List String) (environmentKey : Option String) : Options where
  serviceFile := lastValue? arguments .serviceFile
  serviceUrl := lastValue? arguments .serviceUrl
  restFile := lastValue? arguments .restFile
  restUrl := lastValue? arguments .restUrl
  apiKey := lastValue? arguments .apiKey <|> environmentKey

variable {arguments : List String} {environmentKey : Option String} {invocation : Invocation}

theorem exists_state_of_parse (parsed : parse arguments environmentKey = .ok invocation) :
    ∃ state : State, state.Holds (itemsOf arguments) ∧
      state.finish environmentKey = .ok invocation := by
  rw [parse] at parsed
  split at parsed
  · cases parsed
  · next state done => exact ⟨state, State.holds_start.foldlM done, parsed⟩

/-- The words behind the name of a method that is called are pairs. -/
theorem pairs_of_parse (parsed : parse arguments environmentKey = .ok invocation) {path : String}
    {words : List String} (spelled : wordsOf arguments = "call" :: path :: words) :
    ∀ word ∈ words, '=' ∈ word.toList := by
  obtain ⟨state, holds, _⟩ := exists_state_of_parse parsed
  rcases holds.verb with ⟨_, _, _, none⟩ | ⟨name, verb, _, _, same⟩
  · exact absurd (spelled.symm.trans none) (List.cons_ne_nil _ _)
  · have words_eq := (List.cons.inj (spelled.symm.trans same)).2
    have pairs := holds.pairs
    rwa [← words_eq] at pairs

theorem forall₂_cutAtEquals {words : List String} (pairs : ∀ word ∈ words, '=' ∈ word.toList) :
    List.Forall₂ CutAtEquals words (words.filterMap argumentOf) := by
  induction words with
  | nil => exact .nil
  | cons word words ih =>
      obtain ⟨first, others⟩ := List.forall_mem_cons.1 pairs
      obtain ⟨name, value, same, free⟩ := List.eq_append_cons_of_mem first
      have cut : argumentOf word = some (String.ofList name, String.ofList value) := by
        rw [argumentOf, same, Text.splitFirst_append free]
        rfl
      rw [List.filterMap_cons, cut]
      exact .cons ⟨by simpa using same, by simpa using free⟩ (ih others)

/-- A call gets its method, its arguments and its body from the items, and the options too. -/
structure SpelledCall (arguments : List String) (environmentKey : Option String) (path : String)
    (given : List (String × String)) (body : Option String) (invocation : Invocation) : Prop where
  words : ∃ words, wordsOf arguments = "call" :: path :: words ∧
    List.Forall₂ CutAtEquals words given
  body : body = lastValue? arguments .body
  config : invocation.config = lastValue? arguments .config
  options : invocation.options = optionsOf arguments environmentKey

theorem spelledCall_of_parse (parsed : parse arguments environmentKey = .ok invocation)
    {path : String} {given : List (String × String)} {body : Option String}
    (isCall : invocation.command = .call path given body) :
    SpelledCall arguments environmentKey path given body invocation := by
  obtain ⟨state, holds, finished⟩ := exists_state_of_parse parsed
  rw [State.finish] at finished
  simp only [holds.lookup_eq, holds.body_eq] at finished
  split at finished
  · cases finished
  · split at finished
    · cases finished
      cases isCall
    · cases finished
      cases isCall
    · next method words verb same =>
        cases finished
        cases isCall
        rcases holds.verb with ⟨noVerb, _⟩ | ⟨name, verb', known, named, words_eq⟩
        · rw [verb] at noVerb
          cases noVerb
        · rw [verb] at known
          cases known
          rw [same, Verb.eq_call_of_ofName? named] at words_eq
          have pairs := holds.pairs
          rw [same] at pairs
          exact ⟨⟨words, words_eq, forall₂_cutAtEquals pairs⟩, rfl, rfl, rfl⟩
    · cases finished
    · cases finished

end ApiDiscovery.CommandLine
