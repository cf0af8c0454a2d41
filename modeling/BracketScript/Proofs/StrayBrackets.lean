import BracketScript.Proofs.Calls
import BracketScript.Proofs.Control
import Mathlib.Data.List.Forall2

/-!
# Lines with stray brackets

A line whose brackets are not balanced is cut into spans all the same, and each span is read as a
call on its own: from its first opening bracket to the bracket that closes it. A span in which
nothing is closed is no call and makes the line fail. Brackets before the first opening one, and
brackets after the one that closes it, are never looked at. So an unbalanced line of which each span
has a call does what its calls do, as if the other brackets were not there.

What the count of the brackets says of their numbers needs the depth to stay within its range.

## Main definitions

* `Brackets.bracketed?`: the first bracketed part of a text
* `Brackets.callsOnly`: the bracketed parts of the spans of a line
* `Session.Rejects`: a line that comes to errors and reports only

## Main results

* `Brackets.IsInner.balanced`: what can stand in brackets is balanced
* `Brackets.exists_open_span`: a line that leaves brackets open has a span without a bracketed part
* `Brackets.spans_callsOnly`: the bracketed parts are the spans of the line that they make up
* `Session.evaluates_unbalanced`: what an unbalanced line comes to
-/

namespace BracketScript

namespace Brackets

variable {cs piece tail part span xs : List Char} {pieces : List (List Char)} {depth : Int32}

/-! ### The first bracketed part -/

/-- What can stand in brackets is balanced, if the depth stays within its range. -/
theorem IsInner.balanced (h : IsInner xs) (hfits : DepthFits cs) (hxs : xs <:+: cs) :
    Balanced xs := by
  refine ⟨fun p hp => ?_, ((hfits.isLevel_iff hxs).mp (balance_eq_zero_iff.mp h.closed)).symm⟩
  induction p using List.reverseRecOn with
  | nil => exact Nat.le_refl 0
  | append_singleton p c ih =>
    have hopened := ih ((List.prefix_append p [c]).trans hp)
    rw [List.count_append, List.count_append]
    by_cases hc : c = ']'
    · -- there is an open bracket for this one, or it would be the one that closes the part
      obtain ⟨after, rfl⟩ := hp
      rw [hc, List.append_assoc, List.singleton_append] at h hxs
      have hlevel : ¬ IsLevel p := fun hlevel =>
        h.staysOpen p after rfl (by rw [balance_eq_zero_iff.mpr hlevel]; rfl)
      rw [hfits.isLevel_iff ((List.prefix_append p _).isInfix.trans hxs)] at hlevel
      have hclose : [c].count ']' = 1 := by rw [hc, List.count_singleton_self]
      omega
    · have hnone : [c].count ']' = 0 := List.count_eq_zero.mpr (by simpa using Ne.symm hc)
      omega

/-- The first bracketed part of a text, with its brackets. -/
def bracketed? (cs : List Char) : Option (List Char) := do
  let (_, after) ← Text.Chars.splitFirst '[' cs
  let inner ← inside? 1 [] after
  return '[' :: (inner ++ [']'])

/-- A text in brackets that does not close itself. -/
def IsBracketed (part : List Char) : Prop :=
  ∃ inner, IsInner inner ∧ part = '[' :: (inner ++ [']'])

/-- The first bracketed part is closed at its end only, and there is no opening bracket
before it. -/
theorem bracketed?_eq_some (h : bracketed? cs = some part) :
    IsBracketed part ∧ ∃ before rest, cs = before ++ part ++ rest ∧ '[' ∉ before := by
  obtain ⟨⟨before, after⟩, hsplit, h⟩ := Option.bind_eq_some_iff.mp h
  obtain ⟨inner, hinside, h⟩ := Option.bind_eq_some_iff.mp h
  obtain rfl := Option.some.inj h
  obtain ⟨rfl, hbefore⟩ := Text.Chars.splitFirst_eq_some hsplit
  obtain ⟨hinner, rest, rfl⟩ := inside?_eq_some_iff.mp hinside
  exact ⟨⟨inner, hinner, rfl⟩, before, rest, by simp, hbefore⟩

/-- Behind an opening bracket there is a cut as soon as that bracket is closed. -/
theorem IsBracketed.cut_ne_nil (h : IsBracketed part) (piece rest : List Char) :
    (cut 0 piece (part ++ rest)).1 ≠ [] := by
  obtain ⟨inner, hinner, rfl⟩ := h
  rw [List.cons_append, List.append_assoc, cut, if_neg (by decide)]
  change (cut 1 ('[' :: piece) (inner ++ ([']'] ++ rest))).1 ≠ []
  rw [cut_append_of_staysOpen _ _ hinner.staysOpen, hinner.closed]
  simp [cut]

/-! ### Spans of unbalanced lines -/

/-- The text left over after the last cut is not cut itself. -/
theorem cut_tail (h : cut 0 [] piece.reverse = ([], piece.reverse, depth)) :
    cut 0 [] (cut depth piece cs).2.1 = ([], (cut depth piece cs).2) := by
  induction cs generalizing depth piece with
  | nil => exact h
  | cons c cs ih =>
    rw [cut]
    split
    next => exact ih rfl
    next hclose =>
      -- a character that cuts nothing goes to the text left over so far
      refine ih ?_
      rw [List.reverse_cons, cut_append, h, List.reverse_reverse, cut, if_neg hclose, cut]
      simp

/-- Text left over at another depth than zero is a span of its own. -/
theorem mem_attach (htail : tail ≠ []) (hd : depth ≠ 0) : tail ∈ attach pieces tail depth := by
  obtain ⟨c, tail, rfl⟩ := List.exists_cons_of_ne_nil htail
  induction pieces with
  | nil => exact List.mem_singleton.mpr rfl
  | cons piece rest ih =>
    cases rest with
    | nil => simp [attach, hd]
    | cons next rest => exact List.mem_cons_of_mem _ ih

/-- A span is a piece, with or without text after it, or text left over. -/
theorem prefix_or_eq_of_mem_attach (h : span ∈ attach pieces tail depth) :
    (∃ piece ∈ pieces, piece <+: span) ∨ (span = tail ∧ (pieces = [] ∨ depth ≠ 0)) := by
  induction pieces with
  | nil =>
    cases tail with
    | nil => cases h
    | cons c tail => exact .inr ⟨List.mem_singleton.mp h, .inl rfl⟩
  | cons piece rest ih =>
    cases tail with
    | nil =>
      rw [attach_nil] at h
      exact .inl ⟨span, h, List.prefix_refl _⟩
    | cons c tail =>
      cases rest with
      | nil =>
        simp only [attach] at h
        split at h
        next =>
          rw [List.mem_singleton.mp h]
          exact .inl ⟨piece, List.mem_singleton.mpr rfl, List.prefix_append _ _⟩
        next hd =>
          rcases List.mem_cons.mp h with rfl | h
          · exact .inl ⟨span, List.mem_singleton.mpr rfl, List.prefix_refl _⟩
          · exact .inr ⟨List.mem_singleton.mp h, .inr hd⟩
      | cons next rest =>
        rcases List.mem_cons.mp h with rfl | h
        · exact .inl ⟨span, List.mem_cons_self, List.prefix_refl _⟩
        · rcases ih h with ⟨p, hp, hprefix⟩ | ⟨rfl, hnil | hd⟩
          · exact .inl ⟨p, List.mem_cons_of_mem _ hp, hprefix⟩
          · cases hnil
          · exact .inr ⟨rfl, .inr hd⟩

theorem close_mem_of_mem_cut (h : part ∈ (cut depth piece cs).1) : ']' ∈ part := by
  induction cs generalizing depth piece with
  | nil => cases h
  | cons c cs ih =>
    rw [cut] at h
    split at h
    next hclose =>
      rcases List.mem_cons.mp h with rfl | h
      · simp [hclose.1]
      · exact ih h
    next => exact ih h

/-- A text is cut into pieces, which close what they open, and text left over, which is not cut. -/
theorem exists_cut (cs : List Char) : ∃ pieces tail, cs = pieces.flatten ++ tail ∧
    balance pieces.flatten = 0 ∧ cut 0 [] cs = (pieces, tail, balance tail) ∧
    (cut 0 [] tail).1 = [] := by
  have htext : (cut 0 [] cs).1.flatten ++ (cut 0 [] cs).2.1 = cs := cut_flatten 0 [] cs
  have hdepth : (cut 0 [] cs).2.2 = balance cs := by rw [cut_depth, Int32.zero_add]
  have htail : cut 0 [] (cut 0 [] cs).2.1 = ([], (cut 0 [] cs).2) := cut_tail rfl
  have hbalance : (cut 0 [] cs).2.2 = balance (cut 0 [] cs).2.1 := by
    rw [← Int32.zero_add (balance _), ← cut_depth 0 [], htail]
  refine ⟨_, _, htext.symm, ?_, ?_, congrArg Prod.fst htail⟩
  · have htotal := congrArg balance htext
    rw [balance_append] at htotal
    grind
  · rw [← hbalance]

theorem any_isBracket_of_balance_ne_zero (h : balance cs ≠ 0) : cs.any isBracket = true := by
  refine Decidable.byContradiction fun hany => h (balance_of_not_isBracket ?_)
  simpa using hany

theorem any_isBracket_of_not_balanced (h : ¬ Balanced cs) : cs.any isBracket = true := by
  refine Decidable.byContradiction fun hany => h (balanced_of_not_isBracket ?_)
  simpa using hany

/-- Each span of a line with a bracket has a bracket. -/
theorem any_isBracket_of_mem_spansOf (h : cs.any isBracket = true) (hspan : span ∈ spansOf cs) :
    span.any isBracket = true := by
  obtain ⟨pieces, tail, htext, -, hcut, -⟩ := exists_cut cs
  rw [spansOf, if_pos h, hcut] at hspan
  -- a piece ends in a bracket, and the text left over is the whole line or not balanced
  rcases prefix_or_eq_of_mem_attach hspan with ⟨p, hp, hprefix⟩ | ⟨rfl, rfl | hd⟩
  · have hclose : ']' ∈ p := close_mem_of_mem_cut (by rwa [hcut])
    exact List.any_eq_true.mpr ⟨']', hprefix.subset hclose, rfl⟩
  · rwa [htext] at h
  · exact any_isBracket_of_balance_ne_zero hd

/-- In a line that closes nothing before it is opened, but leaves something open, the text left over
has no bracketed part. -/
theorem exists_open_span (hfits : DepthFits cs)
    (hopened : ∀ p, p <+: cs → p.count ']' ≤ p.count '[') (ht : balance cs ≠ 0) :
    ∃ span ∈ spansOf cs, bracketed? span = none := by
  have hany := any_isBracket_of_balance_ne_zero ht
  obtain ⟨pieces, tail, rfl, hpieces, hcut, htail⟩ := exists_cut cs
  rw [balance_append, hpieces, Int32.zero_add] at ht
  have hne : tail ≠ [] := by
    rintro rfl
    exact ht rfl
  have hmem : tail ∈ spansOf (pieces.flatten ++ tail) := by
    rw [spansOf, if_pos hany, hcut]
    exact mem_attach hne ht
  refine ⟨tail, hmem, Option.eq_none_iff_forall_ne_some.mpr fun part hpart => ?_⟩
  -- the bracketed part would be cut, as there is no bracket before it
  obtain ⟨hbracketed, before, rest, rfl, hbefore⟩ := bracketed?_eq_some hpart
  have hclosed : pieces.flatten.count '[' = pieces.flatten.count ']' :=
    (hfits.isLevel_iff (List.prefix_append _ _).isInfix).mp (balance_eq_zero_iff.mp hpieces)
  have hclose : before.count ']' = 0 := by
    have hprefix : pieces.flatten ++ before <+: pieces.flatten ++ (before ++ part ++ rest) := by
      rw [List.append_assoc, ← List.append_assoc]
      exact List.prefix_append _ _
    have hcount := hopened _ hprefix
    rw [List.count_append, List.count_append, List.count_eq_zero.mpr hbefore] at hcount
    omega
  have hbalance : balance before = 0 := by
    rw [balance_eq_zero_iff, IsLevel, List.count_eq_zero.mpr hbefore, hclose]
  rw [List.append_assoc,
    cut_append_of_staysOpen _ _ (staysOpen_of_not_mem (List.count_eq_zero.mp hclose)),
    hbalance] at htail
  exact hbracketed.cut_ne_nil _ rest htail

/-! ### The calls of a line -/

/-- The bracketed parts of the spans of a line. -/
def partsOf (cs : List Char) : List (List Char) :=
  (spansOf cs).filterMap bracketed?

/-- The bracketed parts of the spans of a line, without what is between them. -/
def callsOnly (line : String) : String := String.ofList (partsOf line.toList).flatten

/-- Texts in brackets that do not close themselves are the spans of the text that they make up. -/
theorem spansOf_flatten_bracketed {parts : List (List Char)} (hne : parts ≠ [])
    (h : ∀ part ∈ parts, IsBracketed part) : spansOf parts.flatten = parts := by
  induction parts with
  | nil => exact absurd rfl hne
  | cons part rest ih =>
    obtain ⟨⟨inner, hinner, rfl⟩, hrest⟩ := List.forall_mem_cons.mp h
    cases rest with
    | nil =>
      rw [List.flatten_singleton]
      exact spansOf_bracketed hinner
    | cons next rest =>
      have hnext := hrest next List.mem_cons_self
      have hany : (next :: rest).flatten.any isBracket = true := by
        obtain ⟨inner', -, rfl⟩ := hnext
        rfl
      have hcut : (cut 0 [] (next :: rest).flatten).1 ≠ [] := hnext.cut_ne_nil [] rest.flatten
      rw [List.flatten_cons, spansOf_bracketed_append hinner hany hcut,
        ih (List.cons_ne_nil _ _) hrest]

/-- They make up a balanced text, if they stand in a text in which the depth stays within its
range. -/
theorem balanced_flatten_bracketed {parts : List (List Char)} (hfits : DepthFits cs)
    (h : ∀ part ∈ parts, IsBracketed part ∧ part <:+: cs) : Balanced parts.flatten := by
  induction parts with
  | nil => exact balanced_of_not_isBracket (List.forall_mem_nil _)
  | cons part rest ih =>
    obtain ⟨⟨⟨inner, hinner, rfl⟩, hpart⟩, hrest⟩ := List.forall_mem_cons.mp h
    have hinside : inner <:+: '[' :: (inner ++ [']']) := ⟨['['], [']'], by simp⟩
    rw [List.flatten_cons]
    exact (hinner.balanced hfits (hinside.trans hpart)).bracketed.append (ih hrest)

/-- If each span has a bracketed part, then these are the parts, one for each span. -/
theorem forall₂_partsOf (h : ∀ span ∈ spansOf cs, bracketed? span ≠ none) :
    List.Forall₂ (fun span part => bracketed? span = some part) (spansOf cs) (partsOf cs) := by
  rw [partsOf]
  generalize spansOf cs = spans at h ⊢
  induction spans with
  | nil => exact .nil
  | cons span rest ih =>
    obtain ⟨hspan, hrest⟩ := List.forall_mem_cons.mp h
    obtain ⟨part, hpart⟩ := Option.ne_none_iff_exists'.mp hspan
    rw [List.filterMap_cons_some hpart]
    exact .cons hpart (ih hrest)

/-- A bracketed part of a span stands in the line. -/
theorem isBracketed_of_mem_partsOf (h : part ∈ partsOf cs) : IsBracketed part ∧ part <:+: cs := by
  obtain ⟨span, hspan, hpart⟩ := List.mem_filterMap.mp h
  obtain ⟨hbracketed, before, rest, rfl, -⟩ := bracketed?_eq_some hpart
  have hinside := List.infix_of_mem_flatten hspan
  rw [spansOf_flatten] at hinside
  exact ⟨hbracketed, List.IsInfix.trans ⟨before, rest, rfl⟩ hinside⟩

/-- The bracketed parts are the spans of the line that they make up. -/
theorem spans_callsOnly {line : String}
    (h : ∀ span ∈ spansOf line.toList, bracketed? span ≠ none) :
    spans (callsOnly line) = (partsOf line.toList).map String.ofList := by
  have hparts := forall₂_partsOf h
  have hne : partsOf line.toList ≠ [] := by
    intro hnil
    rw [hnil, List.forall₂_nil_right_iff] at hparts
    exact spans_ne_nil line (by rw [spans, hparts, List.map_nil])
  rw [spans, callsOnly, String.toList_ofList, spansOf_flatten_bracketed hne fun part hpart =>
    (isBracketed_of_mem_partsOf hpart).1]

theorem balanced_callsOnly {line : String} (hfits : DepthFits line.toList) :
    Balanced (callsOnly line).toList := by
  rw [callsOnly, String.toList_ofList]
  exact balanced_flatten_bracketed hfits fun _ => isBracketed_of_mem_partsOf

end Brackets

namespace Call

variable {cs part : List Char}

theorem ofChars?_eq_none (h : Brackets.bracketed? cs = none) : ofChars? cs = none := by
  simp only [Brackets.bracketed?, ofChars?, Option.bind_eq_bind, Option.bind_eq_none_iff,
    Option.pure_def, reduceCtorEq] at h ⊢
  exact fun split hsplit inner hinside => (h split hsplit inner hinside).elim

/-- The first bracketed part of a text is the same call. -/
theorem ofChars?_of_bracketed? (h : Brackets.bracketed? cs = some part) :
    ofChars? part = ofChars? cs := by
  obtain ⟨⟨before, after⟩, hsplit, h'⟩ := Option.bind_eq_some_iff.mp h
  obtain ⟨inner, hinside, h'⟩ := Option.bind_eq_some_iff.mp h'
  obtain rfl := Option.some.inj h'
  have hinner := (Brackets.inside?_eq_some_iff.mp hinside).1
  rw [ofChars?, ofChars?, hsplit, Text.Chars.splitFirst, if_pos rfl]
  simp only [Option.bind_eq_bind, Option.bind_some, hinside, Brackets.inside?_concat_close hinner]

theorem bracketed?_ne_none {text : String} {call : Call} (h : parse text = .ok call) :
    Brackets.bracketed? text.toList ≠ none := by
  intro hnone
  rw [parse, ofChars?_eq_none hnone] at h
  cases h

theorem any_isBracket_of_parse {text : String} {call : Call} (h : parse text = .ok call) :
    text.toList.any Brackets.isBracket = true := by
  obtain ⟨part, hpart⟩ := Option.ne_none_iff_exists'.mp (bracketed?_ne_none h)
  obtain ⟨⟨inner, -, rfl⟩, before, rest, htext, -⟩ := Brackets.bracketed?_eq_some hpart
  simp [htext, Brackets.isBracket]

theorem parse_of_bracketed? {text : String} {call : Call}
    (h : Brackets.bracketed? text.toList = some part) (hcall : parse text = .ok call) :
    parse (String.ofList part) = .ok call := by
  rw [parse] at hcall ⊢
  rw [String.toList_ofList, ofChars?_of_bracketed? h]
  split at hcall
  next => exact hcall
  next => cases hcall

end Call

namespace Session

variable {host : Host} {s t : Session} {line span : String} {spans spans' : List String}
  {outcomes : List Outcome}

/-! ### Unbalanced lines -/

/-- The line comes to errors and reports only. -/
def Rejects (host : Host) (line : String) : Prop := ∀ s o t, Evaluates host line s o t →
  (∃ error, o = .error error) ∨ ∃ tree, o = .ok (.report tree)

/-- A span with a bracket that is no call fails. -/
theorem spanEvaluates_of_no_call (host : Host)
    (hb : span.toList.any Brackets.isBracket = true) (hcall : ∀ call, Call.parse span ≠ .ok call) :
    ∃ error, ∀ s, SpanEvaluates host span s (.error error) s := by
  cases hparse : Call.parse span with
  | ok call => exact absurd hparse (hcall call)
  | error error =>
    refine ⟨error, fun s => ⟨0, ?_⟩⟩
    rw [evalSpan, if_pos hb, hparse, Script.bind_of_error (Script.liftExcept_apply _ s)]

/-- Each span of a run is evaluated, unless a span gives a report. -/
theorem RunsSpans.exists_of_mem (h : RunsSpans host s spans outcomes t) (hspan : span ∈ spans)
    (hreport : ∀ o ∈ outcomes, Outcome.report? o = none) :
    ∃ o ∈ outcomes, ∃ s' t', SpanEvaluates host span s' o t' := by
  induction h with
  | nil => cases hspan
  | report => exact absurd (hreport _ List.mem_cons_self) (by simp [Outcome.report?])
  | cons hfirst _ _ ih =>
    rcases List.mem_cons.mp hspan with rfl | hspan
    · exact ⟨_, List.mem_cons_self, _, _, hfirst⟩
    · obtain ⟨o, ho, hrest⟩ := ih hspan fun o ho => hreport o (List.mem_cons_of_mem _ ho)
      exact ⟨o, List.mem_cons_of_mem _ ho, hrest⟩

/-- A line is rejected if one of its spans has a bracket and is no call. -/
theorem rejects_of_no_call (hspan : span ∈ Brackets.spans line)
    (hb : span.toList.any Brackets.isBracket = true)
    (hcall : ∀ call, Call.parse span ≠ .ok call) : Rejects host line := by
  intro s o t h
  obtain ⟨outcomes, hrun, rfl⟩ := evaluates_iff_runsSpans.mp h
  cases hreport : outcomes.findSome? Outcome.report? with
  | some tree => exact .inr ⟨tree, Outcome.ofSpans_of_report hreport⟩
  | none =>
    have hnone := Outcome.findSome?_report?_eq_none_iff.mp hreport
    -- no report ends the run early, so the span is evaluated and fails
    obtain ⟨o, ho, s', t', heval⟩ := hrun.exists_of_mem hspan hnone
    obtain ⟨error, herror⟩ := spanEvaluates_of_no_call host hb hcall
    obtain ⟨rfl, -⟩ := heval.unique (herror s')
    exact .inl (Outcome.exists_ofSpans_eq_error_iff.mpr
      ⟨⟨_, ho, Option.some_ne_none error⟩, hnone⟩)

/-- Spans that do the same, one by one, make runs that do the same. -/
theorem RunsSpans.congr (h : RunsSpans host s spans outcomes t)
    (hspans : List.Forall₂ (fun span span' => ∀ s o t,
      SpanEvaluates host span s o t → SpanEvaluates host span' s o t) spans spans') :
    RunsSpans host s spans' outcomes t := by
  induction h generalizing spans' with
  | nil s =>
    cases hspans
    exact .nil s
  | report hfirst =>
    cases hspans with
    | cons hspan => exact .report (hspan _ _ _ hfirst)
  | cons hfirst hreport _ ih =>
    cases hspans with
    | cons hspan hrest => exact .cons (hspan _ _ _ hfirst) hreport (ih hrest)

/-- The spans have the same call. -/
def SameCall (span span' : String) : Prop :=
  ∃ call, Call.parse span = .ok call ∧ Call.parse span' = .ok call

theorem SameCall.evaluates {span span' : String} {o : Outcome} (h : SameCall span span')
    (hspan : SpanEvaluates host span s o t) : SpanEvaluates host span' s o t := by
  obtain ⟨call, hcall, hcall'⟩ := h
  rw [spanEvaluates_iff_dispatches (Call.any_isBracket_of_parse hcall) hcall] at hspan
  exact (spanEvaluates_iff_dispatches (Call.any_isBracket_of_parse hcall') hcall').mpr hspan

theorem bracketed?_ne_none_of_calls
    (h : ∀ span ∈ Brackets.spans line, ∃ call, Call.parse span = .ok call) :
    ∀ span ∈ Brackets.spansOf line.toList, Brackets.bracketed? span ≠ none := by
  intro span hspan
  obtain ⟨call, hcall⟩ := h _ (List.mem_map_of_mem hspan)
  have hne := Call.bracketed?_ne_none hcall
  rwa [String.toList_ofList] at hne

/-- The spans of the line that the bracketed parts make up have the calls of the line. -/
theorem forall₂_sameCall_callsOnly
    (h : ∀ span ∈ Brackets.spans line, ∃ call, Call.parse span = .ok call) :
    List.Forall₂ SameCall (Brackets.spans line) (Brackets.spans (Brackets.callsOnly line)) := by
  have hbracketed := bracketed?_ne_none_of_calls h
  rw [Brackets.spans_callsOnly hbracketed, Brackets.spans, List.forall₂_map_left_iff,
    List.forall₂_map_right_iff]
  have hcalls : ∀ span ∈ Brackets.spansOf line.toList,
      ∃ call, Call.parse (String.ofList span) = .ok call := fun span hspan =>
    h _ (List.mem_map_of_mem hspan)
  refine ((List.forall₂_and_left _ _).mpr ⟨hcalls, Brackets.forall₂_partsOf hbracketed⟩).imp ?_
  rintro span part ⟨⟨call, hcall⟩, hpart⟩
  exact ⟨call, hcall, Call.parse_of_bracketed? (by rwa [String.toList_ofList]) hcall⟩

/-- Lines whose spans have the same calls, one by one, come to the same. -/
theorem Evaluates.of_sameCall {line' : String} {o : Outcome} (h : Evaluates host line s o t)
    (hcalls : List.Forall₂ SameCall (Brackets.spans line) (Brackets.spans line')) :
    Evaluates host line' s o t := by
  obtain ⟨outcomes, hrun, rfl⟩ := evaluates_iff_runsSpans.mp h
  exact (hrun.congr (hcalls.imp fun _ _ hcall _ _ _ => hcall.evaluates)).evaluates

/-- A line that is not balanced is rejected if one of its spans is no call, and this is so if it
closes nothing before it is opened. If all its spans are calls, it does what the line does that is
left when all but the bracketed parts of the spans is taken away, and which is balanced. Where the
numbers of the brackets matter, the depth is to stay within its range. -/
theorem evaluates_unbalanced (host : Host) (hline : ¬ Brackets.Balanced line.toList) :
    ((∃ span ∈ Brackets.spans line, ∀ call, Call.parse span ≠ .ok call) → Rejects host line) ∧
    (Brackets.DepthFits line.toList → (∀ p, p <+: line.toList → p.count ']' ≤ p.count '[') →
      ∃ span ∈ Brackets.spans line, ∀ call, Call.parse span ≠ .ok call) ∧
    ((∀ span ∈ Brackets.spans line, ∃ call, Call.parse span = .ok call) →
      (Brackets.DepthFits line.toList → Brackets.Balanced (Brackets.callsOnly line).toList) ∧
      List.Forall₂ SameCall (Brackets.spans line) (Brackets.spans (Brackets.callsOnly line)) ∧
      ∀ s o t, Evaluates host line s o t ↔ Evaluates host (Brackets.callsOnly line) s o t) := by
  have hany := Brackets.any_isBracket_of_not_balanced hline
  refine ⟨?_, fun hfits hopened => ?_, fun hcalls => ?_⟩
  · rintro ⟨span, hspan, hcall⟩
    obtain ⟨chars, hchars, rfl⟩ := List.mem_map.mp hspan
    refine rejects_of_no_call hspan ?_ hcall
    rw [String.toList_ofList]
    exact Brackets.any_isBracket_of_mem_spansOf hany hchars
  · have hopen : Brackets.balance line.toList ≠ 0 := fun htotal => hline ⟨hopened,
      ((hfits.isLevel_iff (List.infix_refl _)).mp (Brackets.balance_eq_zero_iff.mp htotal)).symm⟩
    -- the brackets that are left open belong to a span of their own
    obtain ⟨span, hspan, hnone⟩ := Brackets.exists_open_span hfits hopened hopen
    refine ⟨_, List.mem_map_of_mem hspan, fun call hcall => ?_⟩
    exact Call.bracketed?_ne_none hcall (by rwa [String.toList_ofList])
  · have hsame := forall₂_sameCall_callsOnly hcalls
    have hsame' : List.Forall₂ SameCall (Brackets.spans (Brackets.callsOnly line))
        (Brackets.spans line) :=
      hsame.flip.imp fun _ _ ⟨call, hcall, hcall'⟩ => ⟨call, hcall', hcall⟩
    exact ⟨Brackets.balanced_callsOnly, hsame,
      fun s o t => ⟨fun h => h.of_sameCall hsame, fun h => h.of_sameCall hsame'⟩⟩

/-- A line with a stray closing bracket before its call passes as if it was not there. -/
theorem evaluates_unbalanced_pass : ¬ Brackets.Balanced "][Pass()]".toList ∧
    Brackets.callsOnly "][Pass()]" = "[Pass()]" ∧
    ∃ t, Evaluates (.ofFiles []) "][Pass()]" {} (.ok .pass) t := by
  have hline : ¬ Brackets.Balanced "][Pass()]".toList := by decide
  have hspans : Brackets.spans "][Pass()]" = ["][Pass()]"] := by decide +kernel
  have hparse : Call.ofChars? "][Pass()]".toList = some ("Pass".toList, []) := by decide +kernel
  have hcalls : ∀ span ∈ Brackets.spans "][Pass()]", ∃ call, Call.parse span = .ok call := by
    rw [hspans, List.forall_mem_singleton, Call.parse, hparse]
    exact ⟨_, rfl⟩
  have honly : Brackets.callsOnly "][Pass()]" = "[Pass()]" := by decide +kernel
  -- what is left of the line is a call that passes
  have hcall : IsCall "[Pass()]" "Pass" "" := by
    have hparse' : Call.ofChars? "[Pass()]".toList = some ("Pass".toList, []) := by decide +kernel
    refine ⟨"[Pass()]", by decide +kernel, by decide, ?_⟩
    rw [Call.parse, hparse']
    simp
  have hpass : Evaluates (.ofFiles []) "[Pass()]" {} (.ok .pass)
      (({} : Session).withArguments "") :=
    (evaluates_pass_iff_dispatches hcall).mpr ⟨0, rfl⟩
  refine ⟨hline, honly, ({} : Session).withArguments "", ?_⟩
  rw [((evaluates_unbalanced (.ofFiles []) hline).2.2 hcalls).2.2, honly]
  exact hpass

end Session

end BracketScript
