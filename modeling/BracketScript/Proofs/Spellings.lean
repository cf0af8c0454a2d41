import BracketScript.CommandLine
import BracketScript.Proofs.Except

/-!
# Spellings of command lines

The same items can be written in several ways: an option with its value in one argument or in two,
debug flags each with a dash of their own or together in front of another letter, and the operands
at the end with or without `--` before them. All of these are read as the same items, and nothing
else is read at all. So what a command line comes to depends on its items only: whether there is a
debug flag, which value is the last for each option, and what the operands are.

## Main definitions

* `Item.Spells`: the rows of arguments that spell a row of items
* `Command.Asked`: what operands ask for
* `CommandLine.IsLast`: the last value of an option among items

## Main results

* `Item.readAll_eq_ok_iff`: exactly the spellings of items are read
* `Command.ofOperands_eq_ok_iff`: which operands ask for something
* `CommandLine.parse_of_spells`: what a command line comes to, however it is spelled
-/

namespace BracketScript

namespace Item

/-! ### Spellings -/

/-- A dash, some debug flags and other letters in one argument. -/
def dashed (count : Nat) (letters : List Char) : String :=
  String.ofList ('-' :: (List.replicate count debugLetter ++ letters))

/-- An argument that stands for itself: it does not begin with a dash, or it is nothing else. -/
def IsOperand (text : String) : Prop := text = "-" ∨ text.toList.head? ≠ some '-'

instance (text : String) : Decidable (IsOperand text) := inferInstanceAs (Decidable (_ ∨ _))

/-- The rows of arguments that spell a row of items. Debug flags can share the dash of what follows
them, and an option can have its value in the same argument, if it is not empty, or in the next one,
whatever it is. The operands at the end can be any texts if `--` is before them. -/
inductive Spells : List Item → List String → Prop
  | nothing : Spells [] []
  | flags {items : List Item} {arguments : List String} (count : Nat)
      (rest : Spells items arguments) :
      Spells (List.replicate (count + 1) debug ++ items) (dashed (count + 1) [] :: arguments)
  | attached {items : List Item} {arguments : List String} (count : Nat) (setting : Setting)
      {value : String} (hvalue : value ≠ "") (rest : Spells items arguments) :
      Spells (List.replicate count debug ++ option setting value :: items)
        (dashed count (setting.letter :: value.toList) :: arguments)
  | separate {items : List Item} {arguments : List String} (count : Nat) (setting : Setting)
      (value : String) (rest : Spells items arguments) :
      Spells (List.replicate count debug ++ option setting value :: items)
        (dashed count [setting.letter] :: value :: arguments)
  | operand {items : List Item} {arguments : List String} {text : String} (htext : IsOperand text)
      (rest : Spells items arguments) : Spells (.operand text :: items) (text :: arguments)
  | operands (texts : List String) : Spells (texts.map .operand) ("--" :: texts)

variable {items : List Item} {arguments : List String} {cs : List Char} {text : String}
  {waiting : Option Setting}

/-! ### Letters that share a dash -/

/-- What the letters after a dash say: debug flags, and then nothing else, an option with its value,
or an option that waits for one. -/
inductive LettersSay : List Char → List Item × Option Setting → Prop
  | flags (count : Nat) :
      LettersSay (List.replicate count debugLetter ++ []) (List.replicate count debug, none)
  | attached (count : Nat) (setting : Setting) {value : String} (hvalue : value ≠ "") :
      LettersSay (List.replicate count debugLetter ++ setting.letter :: value.toList)
        (List.replicate count debug ++ [option setting value], none)
  | waiting (count : Nat) (setting : Setting) :
      LettersSay (List.replicate count debugLetter ++ [setting.letter])
        (List.replicate count debug, some setting)

theorem value?_eq_some_iff {item : Item} {setting : Setting} {value : String} :
    item.value? setting = some value ↔ item = option setting value := by
  cases item <;> simp [value?]

theorem readLetters_flags (count : Nat) (cs : List Char) :
    readLetters (List.replicate count debugLetter ++ cs) =
      (readLetters cs).map fun (items, waiting) =>
        (List.replicate count debug ++ items, waiting) := by
  induction count with
  | zero => cases h : readLetters cs <;> simp [h, Except.map]
  | succ count ih =>
    rw [List.replicate_succ, List.cons_append, readLetters, if_pos rfl, ih]
    cases readLetters cs <;> rfl

theorem readLetters_letter (setting : Setting) (cs : List Char) :
    readLetters (setting.letter :: cs) =
      if cs.isEmpty then .ok ([], some setting)
      else .ok ([option setting (String.ofList cs)], none) := by
  have hletter : setting.letter ≠ debugLetter := by cases setting <;> decide
  rw [readLetters, if_neg hletter, Setting.ofLetter?_letter]

theorem LettersSay.readLetters_eq {result : List Item × Option Setting} (h : LettersSay cs result) :
    readLetters cs = .ok result := by
  cases h with
  | flags count =>
    rw [readLetters_flags, readLetters, Except.map]
    simp
  | attached count setting hvalue =>
    have hne := hvalue
    rw [ne_eq, ← String.toList_eq_nil_iff, ← List.isEmpty_iff] at hne
    rw [readLetters_flags, readLetters_letter, if_neg hne, String.ofList_toList, Except.map]
  | waiting count setting =>
    rw [readLetters_flags, readLetters_letter, if_pos List.isEmpty_nil, Except.map]
    simp

theorem LettersSay.cons {items : List Item} (h : LettersSay cs (items, waiting)) :
    LettersSay (debugLetter :: cs) (debug :: items, waiting) := by
  cases h with
  | flags count => exact .flags (count + 1)
  | attached count setting hvalue => exact .attached (count + 1) setting hvalue
  | waiting count setting => exact .waiting (count + 1) setting

theorem letter_of_ofLetter? {c : Char} {setting : Setting}
    (h : Setting.ofLetter? c = some setting) : setting.letter = c :=
  beq_iff_eq.mp (List.find?_some (p := fun s : Setting => s.letter == c) h)

theorem lettersSay_of_readLetters (h : readLetters cs = .ok (items, waiting)) :
    LettersSay cs (items, waiting) := by
  induction cs generalizing items with
  | nil =>
    cases h
    exact .flags 0
  | cons c cs ih =>
    rw [readLetters] at h
    split at h
    next hc =>
      obtain ⟨⟨rest, waiting'⟩, hrest, heq⟩ := exceptMap_eq_ok_iff.mp h
      cases heq
      rw [hc]
      exact (ih hrest).cons
    next hc =>
      split at h
      next => cases h
      next setting hsetting =>
        obtain rfl := letter_of_ofLetter? hsetting
        split at h
        next hempty =>
          cases h
          rw [List.isEmpty_iff.mp hempty]
          exact .waiting 0 setting
        next hne =>
          cases h
          have hvalue : String.ofList cs ≠ "" := by
            rwa [ne_eq, ← String.toList_eq_nil_iff, String.toList_ofList, ← List.isEmpty_iff]
          have hsays := LettersSay.attached 0 setting hvalue
          rwa [String.toList_ofList] at hsays

/-! ### Rows of arguments -/

theorem letters?_eq_none_iff : letters? text = none ↔ IsOperand text := by
  rw [letters?, IsOperand, ← String.toList_inj]
  match text.toList with
  | [] => simp
  | [c] => simp [Decidable.em]
  | c :: d :: cs => by_cases hc : c = '-' <;> simp [hc]

theorem letters?_eq_some (h : letters? text = some cs) :
    text = String.ofList ('-' :: cs) ∧ cs ≠ [] := by
  rw [letters?] at h
  split at h
  next c rest htext =>
    cases h
    exact ⟨by rw [← htext, String.ofList_toList], List.cons_ne_nil _ _⟩
  next => cases h

theorem readFrom_operand (h : IsOperand text) (arguments : List String) :
    readFrom none (text :: arguments) = (readFrom none arguments).map (.operand text :: ·) := by
  have hne : text ≠ "--" := by
    rintro rfl
    exact absurd h (by decide)
  rw [readFrom, if_neg hne, letters?_eq_none_iff.mpr h]

/-- Letters behind a dash are read, and then the arguments after them. -/
theorem readFrom_letters {items : List Item} (hne : cs ≠ []) (h : LettersSay cs (items, waiting))
    (arguments : List String) :
    readFrom none (String.ofList ('-' :: cs) :: arguments) =
      (readFrom waiting arguments).map (items ++ ·) := by
  obtain ⟨c, rest, rfl⟩ := List.exists_cons_of_ne_nil hne
  have hread := h.readLetters_eq
  -- a second dash is no letter
  have hdashes : String.ofList ('-' :: c :: rest) ≠ "--" := by
    rw [ne_eq, ← String.toList_inj, String.toList_ofList]
    rintro ⟨⟩
    cases hread
  have hletters : letters? (String.ofList ('-' :: c :: rest)) = some (c :: rest) := by
    rw [letters?, String.toList_ofList]
    rfl
  rw [readFrom, if_neg hdashes, hletters]
  simp only [hread]

theorem Spells.readAll_eq (h : Spells items arguments) : readAll arguments = .ok items := by
  rw [readAll]
  induction h with
  | nothing => rfl
  | flags count _ ih =>
    rw [dashed, readFrom_letters (by simp) (.flags (count + 1)), ih]
    rfl
  | attached count setting hvalue _ ih =>
    rw [dashed, readFrom_letters (by simp) (.attached count setting hvalue), ih]
    simp [Except.map]
  | separate count setting value _ ih =>
    rw [dashed, readFrom_letters (by simp) (.waiting count setting), readFrom, ih]
    simp [Except.map]
  | operand htext _ ih =>
    rw [readFrom_operand htext, ih]
    rfl
  | operands texts => rw [readFrom, if_pos rfl]

/-- The rows of arguments that spell a row of items if the first argument may be awaited as the
value of an option. -/
def SpellsAfter : Option Setting → List Item → List String → Prop
  | none, items, arguments => Spells items arguments
  | some setting, items, arguments => ∃ value items' arguments',
      items = option setting value :: items' ∧ arguments = value :: arguments' ∧
        Spells items' arguments'

theorem spellsAfter_of_readFrom (h : readFrom waiting arguments = .ok items) :
    SpellsAfter waiting items arguments := by
  -- which option waits for the first argument is part of what the induction carries
  fun_induction readFrom waiting arguments generalizing items with
  | case1 =>
    cases h
    exact .nothing
  | case2 => cases h
  | case3 setting value rest ih =>
    obtain ⟨items', hrest, rfl⟩ := exceptMap_eq_ok_iff.mp h
    exact ⟨value, items', rest, rfl, rfl, ih hrest⟩
  | case4 rest =>
    cases h
    exact .operands rest
  | case5 argument rest hdashes hletters ih =>
    obtain ⟨items', hrest, rfl⟩ := exceptMap_eq_ok_iff.mp h
    exact .operand (letters?_eq_none_iff.mp hletters) (ih hrest)
  | case6 => cases h
  | case7 argument rest hdashes cs hletters front waiting hread ih =>
    obtain ⟨items', hrest, rfl⟩ := exceptMap_eq_ok_iff.mp h
    obtain ⟨rfl, hne⟩ := letters?_eq_some hletters
    cases lettersSay_of_readLetters hread with
    | flags count =>
      cases count with
      | zero => exact absurd rfl hne
      | succ count => exact .flags count (ih hrest)
    | attached count setting hvalue =>
      rw [List.append_assoc]
      exact .attached count setting hvalue (ih hrest)
    | waiting count setting =>
      -- the value is the next argument, whatever it looks like
      obtain ⟨value, items'', rest', rfl, rfl, hspells⟩ := ih hrest
      exact .separate count setting value hspells

/-- A row of arguments is read as the items that it spells, and not read if it spells none. -/
theorem readAll_eq_ok_iff : readAll arguments = .ok items ↔ Spells items arguments :=
  ⟨spellsAfter_of_readFrom, Spells.readAll_eq⟩

end Item

/-! ### What the operands ask for -/

/-- What operands ask for. Other operands ask for nothing that can be done. -/
inductive Command.Asked : List String → Command → Prop
  | nothing : Asked [] .serve
  | serve : Asked ["serve"] .serve
  | run (path : String) : Asked ["run", path] (.run path)

theorem Command.ofOperands_eq_ok_iff {operands : List String} {command : Command} :
    ofOperands operands = .ok command ↔ Asked operands command := by
  constructor
  · intro h
    unfold ofOperands at h
    split at h <;> cases h
    · exact .nothing
    · exact .serve
    · exact .run _
  · intro h
    cases h <;> rfl

namespace CommandLine

variable {items : List Item} {setting : Setting} {value : Option String} {line : CommandLine}

/-! ### The last value of an option -/

/-- The value that a command line has for an option. -/
def value? (line : CommandLine) : Setting → Option String
  | .config => line.config
  | .root => line.root
  | .apiHost => line.apiHost

/-- The option has the value with which it occurs last, or none if it does not occur. -/
def IsLast (items : List Item) (setting : Setting) : Option String → Prop
  | none => ∀ value, Item.option setting value ∉ items
  | some value => ∃ before after, items = before ++ .option setting value :: after ∧
      ∀ later, Item.option setting later ∉ after

theorem filterMap_value?_eq_nil_iff : items.filterMap (Item.value? setting) = [] ↔
    ∀ value, Item.option setting value ∉ items := by
  simp only [List.filterMap_eq_nil_iff, Option.eq_none_iff_forall_ne_some, ne_eq,
    Item.value?_eq_some_iff]
  exact ⟨fun h value hmem => h _ hmem value rfl, fun h item hmem value heq => h value (heq ▸ hmem)⟩

theorem isLast_lastValue? (items : List Item) (setting : Setting) :
    IsLast items setting (lastValue? items setting) := by
  cases h : lastValue? items setting with
  | none =>
    rw [lastValue?, List.getLast?_eq_none_iff] at h
    exact filterMap_value?_eq_nil_iff.mp h
  | some value =>
    -- the items are cut where the last value of the option comes from
    rw [lastValue?, List.getLast?_eq_some_iff] at h
    obtain ⟨values, h⟩ := h
    obtain ⟨front, back, rfl, -, hback⟩ := List.filterMap_eq_append_iff.mp h
    obtain ⟨middle, item, after, rfl, -, hitem, hafter⟩ := List.filterMap_eq_cons_iff.mp hback
    rw [Item.value?_eq_some_iff.mp hitem]
    exact ⟨front ++ middle, after, (List.append_assoc ..).symm,
      filterMap_value?_eq_nil_iff.mp hafter⟩

theorem IsLast.lastValue?_eq (h : IsLast items setting value) :
    lastValue? items setting = value := by
  cases value with
  | none => rw [lastValue?, filterMap_value?_eq_nil_iff.mpr h, List.getLast?_nil]
  | some value =>
    obtain ⟨before, after, rfl, hafter⟩ := h
    have hvalue : (Item.option setting value).value? setting = some value :=
      Item.value?_eq_some_iff.mpr rfl
    rw [lastValue?, List.filterMap_append, List.filterMap_cons_some hvalue,
      filterMap_value?_eq_nil_iff.mpr hafter, List.getLast?_concat]

theorem lastValue?_eq_iff : lastValue? items setting = value ↔ IsLast items setting value :=
  ⟨fun h => h ▸ isLast_lastValue? items setting, IsLast.lastValue?_eq⟩

/-! ### What a command line comes to -/

theorem ofItems_eq_ok_iff : ofItems items = .ok line ↔
    Command.Asked (items.filterMap Item.operand?) line.command ∧
      (line.debug = true ↔ .debug ∈ items) ∧
      ∀ setting, IsLast items setting (line.value? setting) := by
  rw [ofItems, exceptMap_eq_ok_iff, ← Command.ofOperands_eq_ok_iff]
  simp only [← lastValue?_eq_iff]
  constructor
  · rintro ⟨command, hcommand, rfl⟩
    exact ⟨hcommand, List.contains_iff_mem, fun setting => by cases setting <;> rfl⟩
  · rintro ⟨hcommand, hdebug, hvalue⟩
    obtain ⟨config, root, apiHost, debug, command⟩ := line
    have hconfig : lastValue? items .config = config := hvalue .config
    have hroot : lastValue? items .root = root := hvalue .root
    have hhost : lastValue? items .apiHost = apiHost := hvalue .apiHost
    have hdebug : items.contains .debug = debug := by
      rw [Bool.eq_iff_iff, List.contains_iff_mem, hdebug]
    exact ⟨command, hcommand, by rw [hconfig, hroot, hhost, hdebug]⟩

/-- However items are spelled, they come to the same. There is more logging if one of them is the
debug flag, each option has the value with which it occurs last, and the operands alone say what is
to be done, or which error it is. -/
theorem parse_of_spells {items : List Item} {arguments : List String}
    (h : Item.Spells items arguments) :
    (∀ line, parse arguments = .ok line ↔
      Command.Asked (items.filterMap Item.operand?) line.command ∧
      (line.debug = true ↔ .debug ∈ items) ∧
      ∀ setting, IsLast items setting (line.value? setting)) ∧
    (∀ error, parse arguments = .error error ↔
      Command.ofOperands (items.filterMap Item.operand?) = .error error) ∧
    ((∃ error, parse arguments = .error error) ↔
      ∀ command, ¬ Command.Asked (items.filterMap Item.operand?) command) ∧
    ∀ other, Item.Spells items other → parse other = parse arguments := by
  have hparse {arguments : List String} (h : Item.Spells items arguments) :
      parse arguments = ofItems items := by
    rw [parse, h.readAll_eq]
    rfl
  have herror (error : UsageError) : parse arguments = .error error ↔
      Command.ofOperands (items.filterMap Item.operand?) = .error error := by
    rw [hparse h, ofItems, exceptMap_eq_error_iff]
  refine ⟨fun line => ?_, herror, ?_, fun other hother => ?_⟩
  · rw [hparse h, ofItems_eq_ok_iff]
  · simp only [herror, ← Command.ofOperands_eq_ok_iff]
    cases Command.ofOperands (items.filterMap Item.operand?) <;> simp
  · rw [hparse hother, hparse h]

/-- Debug flags in front of other letters, a value that looks like the end of the options, and an
operand that looks like an option. -/
theorem parse_of_spells_dashes :
    Item.Spells [.debug, .debug, .option .config "x", .operand "run", .debug, .option .root "--",
        .operand "-a"]
      ["-ddcx", "run", "-dr", "--", "--", "-a"] ∧
    parse ["-ddcx", "run", "-dr", "--", "--", "-a"] =
      .ok ⟨some "x", some "--", none, true, .run "-a"⟩ := by
  have hspells : Item.Spells [.debug, .debug, .option .config "x", .operand "run", .debug,
        .option .root "--", .operand "-a"]
      ["-ddcx", "run", "-dr", "--", "--", "-a"] :=
    .attached 2 .config (by decide) <| .operand (by decide) <| .separate 1 .root "--" <|
      .operands ["-a"]
  refine ⟨hspells, ((parse_of_spells hspells).1 _).mpr ⟨.run "-a", by decide, fun setting => ?_⟩⟩
  cases setting with
  | config => exact ⟨[.debug, .debug], _, rfl, by simp⟩
  | root => exact ⟨[.debug, .debug, .option .config "x", .operand "run", .debug], _, rfl, by simp⟩
  | apiHost => simp [IsLast, value?]

end CommandLine

end BracketScript
