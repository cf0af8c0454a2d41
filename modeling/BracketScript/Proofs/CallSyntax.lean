import BracketScript.Proofs.Calls

/-!
# Scanning undoes printing

Calls nest through their arguments: an argument is either plain text or a sequence of further calls.
Here calls are trees, which can only be built from names and plain texts that do not get in the way
of the scanner, and are printed in the way in which scripts are written. The scanner takes what is
printed apart level by level, in each of its three ways: a printed sequence into the calls, a
printed call into name and argument text, and the argument text into the printed arguments.

The scanner counts with 32 bits, so this holds of calls that are nested as deep as the count goes.
The depth of the brackets in a printed call is the height of the call as a tree.

## Main definitions

* `Brackets.Nested`: balanced brackets, with a bound on how many are open at a time
* `CallName`, `PlainArgument`: names and plain texts that can be told from what is around them
* `CallTree`, `CallArgument`: calls with their arguments, of any nesting depth
* `CallTree.print`, `CallArgument.print`: how they are written
* `CallTree.height`, `CallArgument.height`: how deep their calls are nested

## Main results

* `CallTree.nested_print`: the brackets of a printed call are nested as deep as its calls
* `CallArgument.undivided_print`: all commas of a printed argument are inside of brackets
* `CallTree.scan_print`: the scanner takes apart what has been printed
-/

namespace BracketScript

namespace Brackets

variable {xs ys : List Char} {m n : Nat}

/-! ### Nested brackets -/

/-- The brackets of a text are balanced, and no more than `n` of them are open at a time. -/
structure Nested (n : Nat) (cs : List Char) : Prop extends Balanced cs where
  bounded : ∀ p, p <+: cs → p.count '[' ≤ p.count ']' + n

theorem Nested.mono (h : Nested m xs) (hmn : m ≤ n) : Nested n xs :=
  ⟨h.toBalanced, fun p hp => (h.bounded p hp).trans (Nat.add_le_add_left hmn _)⟩

/-- A text without brackets is nested with none open. -/
theorem nested_of_not_isBracket (h : ∀ c ∈ xs, isBracket c = false) : Nested n xs := by
  refine ⟨balanced_of_not_isBracket h, fun p hp => ?_⟩
  rw [(count_of_not_isBracket fun c hc => h c (hp.subset hc)).1]
  exact Nat.zero_le _

theorem Nested.append (hx : Nested n xs) (hy : Nested n ys) : Nested n (xs ++ ys) := by
  refine ⟨hx.toBalanced.append hy.toBalanced, fun p hp => ?_⟩
  rcases prefix_append_cases hp with hp | ⟨q, rfl, hq⟩
  · exact hx.bounded p hp
  · have hclosed := hx.closed
    have hbounded := hy.bounded q hq
    rw [List.count_append, List.count_append]
    omega

/-- Brackets around a text are one more that is open in it. -/
theorem Nested.bracketed (h : Nested n xs) : Nested (n + 1) ('[' :: (xs ++ [']'])) := by
  refine ⟨h.toBalanced.bracketed, fun p hp => ?_⟩
  rcases prefix_bracketed_cases hp with rfl | ⟨q, rfl, hq⟩ | rfl
  · exact Nat.zero_le _
  · have hbounded := h.bounded q hq
    rw [List.count_cons_self, List.count_cons_of_ne (by decide)]
    omega
  · rw [h.toBalanced.bracketed.closed]
    exact Nat.le_add_right _ _

/-- Where a bracket of nested ones is closed, the count is not at the depth outside, as the brackets
that are open are too few to make it wrap around. -/
theorem Nested.isInner (h : Nested n xs) (hn : n < 2 ^ 31) : IsInner xs := by
  refine ⟨fun before after hx hdepth => ?_, h.total⟩
  -- with the bracket that would close the outer one, more is closed than opened
  have hopened := h.opened (before ++ [']']) ⟨after, by simp [hx]⟩
  have hbounded := h.bounded before ⟨_, hx.symm⟩
  have hlevel : IsLevel before := balance_eq_zero_iff.mp (by grind)
  have hnone : [']'].count '[' = 0 := by decide
  rw [List.count_append, List.count_append, List.count_singleton_self, hnone] at hopened
  rw [IsLevel, Int32.size] at hlevel
  omega

/-- All commas of nested brackets in a further pair of brackets are inside of the brackets. -/
theorem Nested.undivided_bracketed (h : Nested n xs) (hn : n < 2 ^ 31) :
    Undivided ('[' :: (xs ++ [']'])) := by
  intro before after hcomma hdepth
  have hlevel := balance_eq_zero_iff.mp hdepth
  rcases prefix_bracketed_cases ⟨_, hcomma.symm⟩ with rfl | ⟨inner, rfl, hinner⟩ | rfl
  -- a comma is neither of the two brackets, so it stands in the text between them
  · cases List.head_eq_of_cons_eq hcomma
  · have hopened := h.opened inner hinner
    have hbounded := h.bounded inner hinner
    rw [IsLevel, Int32.size, List.count_cons_self, List.count_cons_of_ne (by decide)] at hlevel
    omega
  · exact absurd (congrArg List.length hcomma) (by simp)

end Brackets

/-- The name of a call: it is not empty, has no white space around it, and holds no bracket and no
opening parenthesis. -/
structure CallName where
  text : String
  ne_empty : text ≠ ""
  trimmed : Text.trim text = text
  plain : ∀ c ∈ text.toList, c ≠ '[' ∧ c ≠ ']' ∧ c ≠ '('

/-- An argument that is plain text. It may be empty. -/
structure PlainArgument where
  text : String
  plain : Brackets.IsPlain text

mutual

/-- A call: a name and at least one argument. -/
inductive CallTree where
  | call (name : CallName) (first : CallArgument) (rest : List CallArgument)

/-- An argument of a call: plain text, or at least one further call. -/
inductive CallArgument where
  | plain (argument : PlainArgument)
  | calls (first : CallTree) (rest : List CallTree)

end

mutual

/-- A call as it is written. -/
def CallTree.print : CallTree → String
  | .call name first rest =>
    "[" ++ name.text ++ "(" ++ Text.joinWith "," (first.print :: printArguments rest) ++ ")]"

/-- An argument as it is written: plain text as it is, and calls one after the other. -/
def CallArgument.print : CallArgument → String
  | .plain argument => argument.text
  | .calls first rest => first.print ++ printCalls rest

/-- Several arguments, each as it is written. -/
def printArguments : List CallArgument → List String
  | [] => []
  | argument :: rest => argument.print :: printArguments rest

/-- Several calls as they are written, one after the other. -/
def printCalls : List CallTree → String
  | [] => ""
  | call :: rest => call.print ++ printCalls rest

end

mutual

/-- How deep the calls of a call are nested, itself included. -/
def CallTree.height : CallTree → Nat
  | .call _ first rest => max first.height (heightOfArguments rest) + 1

/-- How deep the calls of an argument are nested. -/
def CallArgument.height : CallArgument → Nat
  | .plain _ => 0
  | .calls first rest => max first.height (heightOfCalls rest)

/-- The greatest height of several arguments. -/
def heightOfArguments : List CallArgument → Nat
  | [] => 0
  | argument :: rest => max argument.height (heightOfArguments rest)

/-- The greatest height of several calls. -/
def heightOfCalls : List CallTree → Nat
  | [] => 0
  | call :: rest => max call.height (heightOfCalls rest)

end

namespace CallTree

/-- The name of a call. -/
def name : CallTree → String
  | call name _ _ => name.text

/-- The arguments of a call. -/
def arguments : CallTree → List CallArgument
  | call _ first rest => first :: rest

/-- The text of the arguments of a call: the printed arguments with commas between them. -/
def raw (call : CallTree) : String :=
  Text.joinWith "," (call.arguments.map CallArgument.print)

end CallTree

theorem printArguments_eq_map (arguments : List CallArgument) :
    printArguments arguments = arguments.map CallArgument.print := by
  induction arguments with
  | nil => rfl
  | cons argument rest ih => rw [printArguments, ih, List.map_cons]

/-- A call is written as its name and the text of its arguments in parentheses, all in brackets. -/
theorem CallTree.print_eq (call : CallTree) :
    call.print = "[" ++ call.name ++ "(" ++ call.raw ++ ")]" := by
  cases call with
  | call name first rest =>
    rw [print, printArguments_eq_map]
    rfl

open Brackets (Nested IsInner Undivided)

variable {call : CallTree} {n : Nat}

/-! ### Heights -/

theorem CallArgument.height_le_heightOfArguments {argument : CallArgument}
    {arguments : List CallArgument} (h : argument ∈ arguments) :
    argument.height ≤ heightOfArguments arguments := by
  induction arguments with
  | nil => cases h
  | cons first rest ih =>
    rw [heightOfArguments]
    rcases List.mem_cons.mp h with rfl | h
    · exact Nat.le_max_left _ _
    · exact (ih h).trans (Nat.le_max_right _ _)

theorem CallTree.height_le_heightOfCalls {calls : List CallTree} (h : call ∈ calls) :
    call.height ≤ heightOfCalls calls := by
  induction calls with
  | nil => cases h
  | cons first rest ih =>
    rw [heightOfCalls]
    rcases List.mem_cons.mp h with rfl | h
    · exact Nat.le_max_left _ _
    · exact (ih h).trans (Nat.le_max_right _ _)

/-- The arguments of a call are less deep than the call. -/
theorem CallArgument.height_lt {argument : CallArgument} (h : argument ∈ call.arguments) :
    argument.height < call.height := by
  cases call with
  | call name first rest =>
    exact Nat.lt_succ_of_le (CallArgument.height_le_heightOfArguments h)

/-! ### Printed brackets are nested -/

theorem CallName.not_isBracket (name : CallName) :
    ∀ c ∈ name.text.toList, Brackets.isBracket c = false :=
  fun c hc => by simp [Brackets.isBracket, name.plain c hc]

theorem CallTree.not_isBracket_name (call : CallTree) :
    ∀ c ∈ call.name.toList, Brackets.isBracket c = false := by
  cases call with
  | call name first rest => exact name.not_isBracket

theorem CallTree.print_toList (call : CallTree) : call.print.toList =
    '[' :: ((call.name ++ "(" ++ call.raw ++ ")").toList ++ [']']) := by
  rw [print_eq, Call.toList_bracketed]

theorem CallTree.nested_raw_of (h : ∀ a ∈ call.arguments, Nested n a.print.toList) :
    Nested n call.raw.toList :=
  Brackets.of_joinWith (Brackets.nested_of_not_isBracket (by simp))
    (Brackets.nested_of_not_isBracket (by simp [Brackets.isBracket])) Nested.append
    (List.forall_mem_map.mpr h)

/-- What is between the brackets of a printed call is nested as its arguments are. -/
theorem CallTree.nested_inner_of (h : ∀ a ∈ call.arguments, Nested n a.print.toList) :
    Nested n (call.name ++ "(" ++ call.raw ++ ")").toList := by
  have hname : Nested n call.name.toList :=
    Brackets.nested_of_not_isBracket call.not_isBracket_name
  have hparen (c : Char) (hc : Brackets.isBracket c = false) : Nested n [c] :=
    Brackets.nested_of_not_isBracket (List.forall_mem_singleton.mpr hc)
  simp only [String.toList_append]
  exact ((hname.append (hparen '(' rfl)).append (nested_raw_of h)).append (hparen ')' rfl)

mutual

/-- The brackets of a printed call are nested as deep as its calls. -/
theorem CallTree.nested_print : ∀ call : CallTree, Nested call.height call.print.toList
  | .call name first rest => by
    rw [CallTree.print_toList]
    refine (CallTree.nested_inner_of (List.forall_mem_cons.mpr ⟨?_, fun a ha => ?_⟩)).bracketed
    · exact (CallArgument.nested_print first).mono (Nat.le_max_left _ _)
    · exact (nested_printArguments rest a ha).mono
        ((CallArgument.height_le_heightOfArguments ha).trans (Nat.le_max_right _ _))

/-- The brackets of a printed argument are nested as deep as its calls. -/
theorem CallArgument.nested_print :
    ∀ argument : CallArgument, Nested argument.height argument.print.toList
  | .plain argument => Brackets.nested_of_not_isBracket argument.plain.not_isBracket
  | .calls first rest => by
    rw [CallArgument.print, String.toList_append, CallArgument.height]
    exact ((CallTree.nested_print first).mono (Nat.le_max_left _ _)).append
      ((nested_printCalls rest).mono (Nat.le_max_right _ _))

theorem nested_printArguments :
    ∀ arguments : List CallArgument, ∀ a ∈ arguments, Nested a.height a.print.toList
  | [] => fun _ h => nomatch h
  | argument :: rest =>
    List.forall_mem_cons.mpr ⟨CallArgument.nested_print argument, nested_printArguments rest⟩

theorem nested_printCalls :
    ∀ calls : List CallTree, Nested (heightOfCalls calls) (printCalls calls).toList
  | [] => Brackets.nested_of_not_isBracket (by simp [printCalls])
  | call :: rest => by
    rw [printCalls, String.toList_append, heightOfCalls]
    exact ((CallTree.nested_print call).mono (Nat.le_max_left _ _)).append
      ((nested_printCalls rest).mono (Nat.le_max_right _ _))

end

/-- The arguments of a call within the range of the count are nested less deep than that. -/
theorem CallTree.nested_arguments (h : call.height < 2 ^ 31) :
    ∀ a ∈ call.arguments, Nested (2 ^ 31 - 1) a.print.toList :=
  fun a ha => a.nested_print.mono (Nat.le_sub_one_of_lt ((CallArgument.height_lt ha).trans h))

theorem CallTree.isInner_name (call : CallTree) : IsInner call.name.toList :=
  Brackets.isInner_of_not_isBracket call.not_isBracket_name

theorem CallTree.isInner_raw (h : call.height < 2 ^ 31) : IsInner call.raw.toList :=
  (nested_raw_of (nested_arguments h)).isInner (by decide)

/-! ### Printed arguments have no comma of their own -/

theorem undivided_printCalls {calls : List CallTree} (h : ∀ call ∈ calls, call.height < 2 ^ 31) :
    Undivided (printCalls calls).toList := by
  induction calls with
  | nil => exact Brackets.undivided_of_not_mem (by simp [printCalls])
  | cons call rest ih =>
    obtain ⟨hcall, hrest⟩ := List.forall_mem_cons.mp h
    have hundivided : Undivided call.print.toList := by
      rw [CallTree.print_toList]
      exact (CallTree.nested_inner_of (CallTree.nested_arguments hcall)).undivided_bracketed
        (by decide)
    rw [printCalls, String.toList_append]
    exact hundivided.append call.nested_print.total (ih hrest)

/-- All commas of a printed argument are inside of brackets. -/
theorem CallArgument.undivided_print {argument : CallArgument} (h : argument.height < 2 ^ 31) :
    Undivided argument.print.toList := by
  cases argument with
  | plain argument => exact argument.plain.undivided
  | calls first rest =>
    have hcalls (call : CallTree) (hcall : call ∈ first :: rest) :
        call.height ≤ heightOfCalls (first :: rest) :=
      CallTree.height_le_heightOfCalls hcall
    exact undivided_printCalls fun call hcall => (hcalls call hcall).trans_lt h

/-! ### The scanner on what has been printed -/

/-- A printed call is one span. -/
theorem CallTree.spans_print (h : call.height < 2 ^ 31) :
    Brackets.spans call.print = [call.print] := by
  rw [call.print_eq]
  exact Call.spans_bracketed call.isInner_name (isInner_raw h)

/-- The spans of a printed sequence of calls are the printed calls. -/
theorem spans_printCalls {calls : List CallTree} (hne : calls ≠ [])
    (h : ∀ call ∈ calls, call.height < 2 ^ 31) :
    Brackets.spans (printCalls calls) = calls.map CallTree.print := by
  induction calls with
  | nil => exact absurd rfl hne
  | cons call rest ih =>
    obtain ⟨hcall, hrest⟩ := List.forall_mem_cons.mp h
    cases rest with
    | nil =>
      rw [printCalls, printCalls, String.append_empty]
      exact CallTree.spans_print hcall
    | cons next rest =>
      have hend : call.print.toList.getLast? = some ']' := by
        rw [call.print_toList, ← List.cons_append, List.getLast?_concat]
      have hbracket : (printCalls (next :: rest)).toList.any Brackets.isBracket = true := by
        rw [printCalls, String.toList_append, next.print_toList]
        rfl
      have hspans := Brackets.spans_append call.nested_print.toBalanced hend
        (nested_printCalls (next :: rest)).toBalanced hbracket
      rw [printCalls, hspans, CallTree.spans_print hcall, ih (List.cons_ne_nil _ _) hrest]
      rfl

/-- The argument text of a printed call is cut into the printed arguments. -/
theorem CallTree.arguments_raw (h : call.height < 2 ^ 31) :
    Brackets.arguments call.raw = call.arguments.map CallArgument.print := by
  refine Brackets.arguments_joinWith ?_ ?_ ?_
  · cases call
    exact List.cons_ne_nil _ _
  · intro t ht
    obtain ⟨argument, -, rfl⟩ := List.mem_map.mp (List.dropLast_subset _ ht)
    exact argument.nested_print.total
  · exact List.forall_mem_map.mpr fun argument ha =>
      CallArgument.undivided_print ((CallArgument.height_lt ha).trans h)

/-- The name and the argument text of a printed call are read back. -/
theorem CallTree.parse_print (h : call.height < 2 ^ 31) :
    Call.parse call.print = .ok ⟨call.name, call.raw⟩ := by
  have hraw := isInner_raw h
  rw [call.print_eq]
  cases call with
  | call name first rest =>
    have hparen : '(' ∉ name.text.toList := fun hmem => (name.plain '(' hmem).2.2 rfl
    exact Call.parse_bracketed (Brackets.isInner_of_not_isBracket name.not_isBracket) hraw
      name.ne_empty name.trimmed hparen

/-- Scanning undoes printing, for calls that are nested as deep as the scanner counts. A printed
sequence of calls is taken apart into the printed calls. Every printed call, at the top or at any
depth in the arguments of another one, is taken apart into its name and the text of its arguments,
and that text into the printed arguments. -/
theorem CallTree.scan_print :
    (∀ first rest, (∀ call ∈ first :: rest, call.height < 2 ^ 31) →
      Brackets.spans (printCalls (first :: rest)) = (first :: rest).map print) ∧
    ∀ call : CallTree, call.height < 2 ^ 31 →
      Call.parse call.print = .ok ⟨call.name, call.raw⟩ ∧
        Brackets.arguments call.raw = call.arguments.map CallArgument.print :=
  ⟨fun first rest h => spans_printCalls (List.cons_ne_nil first rest) h,
    fun _ h => ⟨parse_print h, arguments_raw h⟩⟩

/-- A call with a call in its arguments, and another call behind it. -/
theorem CallTree.scan_print_nested :
    Brackets.spans "[If((i < 3),[Pass()])][Pass()]" = ["[If((i < 3),[Pass()])]", "[Pass()]"] ∧
      Call.parse "[If((i < 3),[Pass()])]" = .ok ⟨"If", "(i < 3),[Pass()]"⟩ ∧
        Brackets.arguments "(i < 3),[Pass()]" = ["(i < 3)", "[Pass()]"] := by
  let pass : CallTree := .call ⟨"Pass", by decide, by decide, by simp⟩ (.plain ⟨"", by decide⟩) []
  let test : CallTree :=
    .call ⟨"If", by decide, by decide, by simp⟩ (.plain ⟨"(i < 3)", by decide⟩) [.calls pass []]
  have hprint : test.print = "[If((i < 3),[Pass()])]" := by decide
  have hprints : printCalls [test, pass] = "[If((i < 3),[Pass()])][Pass()]" := by decide
  have hraw : test.raw = "(i < 3),[Pass()]" := by decide
  have hspans := scan_print.1 test [pass] (by decide)
  obtain ⟨hparse, harguments⟩ := scan_print.2 test (by decide)
  rw [hprints] at hspans
  rw [hprint, hraw] at hparse
  rw [hraw] at harguments
  refine ⟨hspans.trans ?_, hparse, harguments.trans ?_⟩ <;> decide

end BracketScript
